import SwapDesk.Json.Basic
import SwapDesk.Json.Write
import SwapDesk.Text.Printable

/-! # Reading typed values out of documents

A document value fills a typed one as a structure with named, typed fields is filled: whole
numbers must fit their width, variant names match exactly, optional fields may be absent or
`null`, and a structure may be an array of its fields in order. Errors are worded as the settings
reader reports them (`invalid type: string "x", expected u64`).
-/

namespace SwapDesk

/-- What a document value was, as an error names it. -/
inductive Found where
  | bool (b : Bool)
  | integer (i : Int)
  | float (x : Float)
  | string (s : String)
  | unit
  | sequence
  | map
  | other (what : String)

inductive DecodeError where
  | invalidType (found : Found) (expected : String)
  /-- a value of the right kind but out of range -/
  | invalidValue (found : Found) (expected : String)
  | missingField (name : String)
  | invalidLength (length : Nat) (expected : String)
  | unknownVariant (name : String) (variants : List String)
  /-- a failure worded by the type itself -/
  | custom (message : String)
  /-- a well-typed value refused by the type's own consistency check -/
  | rejected (message : String)

namespace Found

def describe : Found → String
  | .bool b => "boolean `" ++ (if b then "true" else "false") ++ "`"
  | .integer i => "integer `" ++ toString i ++ "`"
  | .float x =>
    let t := x.toPlain
    "floating point `" ++ (if x.isFinite ∧ !t.contains '.' then t ++ ".0" else t) ++ "`"
  | .string s => "string " ++ debugQuote s
  | .unit => "unit value"
  | .sequence => "sequence"
  | .map => "map"
  | .other what => what

def ofJson : Json → Found
  | .null => .unit
  | .bool b => .bool b
  | .int i => .integer i
  | .float x => .float x
  | .str s => .string s
  | .arr _ => .sequence
  | .obj _ => .map

end Found

def DecodeError.message : DecodeError → String
  | .invalidType f e => "invalid type: " ++ f.describe ++ ", expected " ++ e
  | .invalidValue f e => "invalid value: " ++ f.describe ++ ", expected " ++ e
  | .missingField n => "missing field `" ++ n ++ "`"
  | .invalidLength n e => "invalid length " ++ toString n ++ ", expected " ++ e
  | .unknownVariant n vs =>
    "unknown variant `" ++ n ++ "`, expected " ++
      (match vs with
       | [a] => "`" ++ a ++ "`"
       | [a, b] => "`" ++ a ++ "` or `" ++ b ++ "`"
       | _ => "one of " ++ ", ".intercalate (vs.map fun v => "`" ++ v ++ "`"))
  | .custom m => m
  | .rejected m => m

namespace Json

/-- A whole number below `2^bits`, named `kind` in errors. -/
def toWord (bits : Nat) (kind : String) : Json → Except DecodeError Nat
  | .int i => if 0 ≤ i ∧ i < Int.pow 2 bits then .ok i.toNat else .error (.invalidValue (.integer i) kind)
  | j => .error (.invalidType (Found.ofJson j) kind)

def toU32 (j : Json) : Except DecodeError UInt32 := (toWord 32 "u32" j).map Nat.toUInt32

def toU64 (j : Json) : Except DecodeError UInt64 := (toWord 64 "u64" j).map Nat.toUInt64

def toSize (j : Json) : Except DecodeError Nat := toWord 64 "usize" j

def toI32 : Json → Except DecodeError Int
  | .int i =>
    if -Int.pow 2 31 ≤ i ∧ i < Int.pow 2 31 then .ok i else .error (.invalidValue (.integer i) "i32")
  | j => .error (.invalidType (Found.ofJson j) "i32")

def toF64 (j : Json) : Except DecodeError Float :=
  match j.asFloat? with
  | some x => .ok x
  | none => .error (.invalidType (Found.ofJson j) "f64")

def toStr : Json → Except DecodeError String
  | .str s => .ok s
  | j => .error (.invalidType (Found.ofJson j) "a string")

def toBool : Json → Except DecodeError Bool
  | .bool b => .ok b
  | j => .error (.invalidType (Found.ofJson j) "a boolean")

/-- One of the named variants of a type, by its exact name. -/
def toVariant {α : Type} (names : List (String × α)) (j : Json) : Except DecodeError α :=
  match j with
  | .str s =>
    match names.find? (·.1 == s) with
    | some (_, a) => .ok a
    | none => .error (.unknownVariant s (names.map (·.1)))
  | j => .error (.invalidType (Found.ofJson j) "a string")

def field {α : Type} (j : Json) (name : String) (dec : Json → Except DecodeError α) :
    Except DecodeError α :=
  match j.get? name with
  | some v => dec v
  | none => .error (.missingField name)

/-- The value of an optional field: absent and `null` give `none`. -/
def optField {α : Type} (j : Json) (name : String) (dec : Json → Except DecodeError α) :
    Except DecodeError (Option α) :=
  match j.get? name with
  | none | some .null => .ok none
  | some v => some <$> dec v

def toObject (expected : String) : Json → Except DecodeError (List (String × Json))
  | .obj ms => .ok ms
  | j => .error (.invalidType (Found.ofJson j) expected)

/-- A structure's value as an object: an object as it is, or an array whose items fill the
structure's fields in order, a field without an item being absent. An array longer than
the fields is refused. -/
def toStruct (name : String) (fields : List String) : Json → Except DecodeError Json
  | .obj ms => .ok (.obj ms)
  | .arr items =>
    if items.length > fields.length then
      .error (.invalidLength items.length "fewer elements in array")
    else .ok (.obj (fields.zip items))
  | j => .error (.invalidType (Found.ofJson j) ("struct " ++ name))

def toList {α : Type} (dec : Json → Except DecodeError α) : Json → Except DecodeError (List α)
  | .arr xs => xs.mapM dec
  | j => .error (.invalidType (Found.ofJson j) "a sequence")

end Json

end SwapDesk
