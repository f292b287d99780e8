import SwapDesk.Json.Basic

/-! # Settings documents as trees

Tables keep their keys in written order and every node its source span. How a table was opened
(`Origin`: header, implicitly by a deeper header, by dotted keys, inline) decides what may later
add to it; `insertValue`, `insertHeader` and `insertTables` refuse what those rules forbid.
-/

namespace SwapDesk.Toml

structure Span where
  start : Nat
  stop : Nat
  deriving DecidableEq, Repr

inductive Origin where
  | root
  | header
  | implicit
  | dotted
  | inline
  deriving DecidableEq, Repr

inductive Node where
  | scalar (value : Json) (span : Span)
  | array (items : List Node) (span : Span)
  | table (origin : Origin) (span : Span) (entries : List (String × Node))
  /-- an array of tables, each opened by a `[[header]]` whose span it keeps -/
  | tables (items : List (Span × List (String × Node)))

abbrev Entries := List (String × Node)

def isBareKeyChar (c : Char) : Bool := c.isAlphanum || c == '_' || c == '-'

/-- A character of a key written back in double quotes: the short escapes, four upper-case
hexadecimal digits for the other control characters, and any other character as itself. -/
def keyEscape (c : Char) : String :=
  match c with
  | '\x08' => "\\b"
  | '\t' => "\\t"
  | '\n' => "\\n"
  | '\x0c' => "\\f"
  | '\r' => "\\r"
  | '"' => "\\\""
  | '\\' => "\\\\"
  | c =>
    if c.toNat ≤ 0x1F || c.toNat == 0x7F then
      let ds := (Nat.toDigits 16 c.toNat).map Char.toUpper
      "\\u" ++ String.ofList (List.replicate (4 - ds.length) '0' ++ ds)
    else c.toString

/-- A key written back the way a report shows it: bare when it can be; in single quotes
when it holds a backslash and nothing a single-quoted key cannot hold; otherwise in double
quotes with escapes. -/
def keyText (k : String) : String :=
  let cs := k.toList
  if !cs.isEmpty && cs.all isBareKeyChar then k
  else if cs.contains '\\' && cs.all (fun c => c == '\t' || 0x1F < c.toNat) &&
      !cs.contains '\'' then
    "'" ++ k ++ "'"
  else "\"" ++ String.join (cs.map keyEscape) ++ "\""

inductive Fault where
  /-- a key, or a table, defined twice; `table` names the table it was defined in, when
  the reader knows it -/
  | duplicateKey (key : String) (table : Option (List String))
  /-- a header naming a key of `table` that is already defined otherwise than by
  headers below it -/
  | duplicateTable (key : String) (table : List String)
  /-- a dotted key or header that goes through a value -/
  | extendValue (keys : List String) (kind : String)

def Fault.message : Fault → String
  | .duplicateKey k none => "duplicate key `" ++ k ++ "`"
  | .duplicateKey k (some []) => "duplicate key `" ++ k ++ "` in document root"
  | .duplicateKey k (some t) => "duplicate key `" ++ k ++ "` in table `" ++ ".".intercalate t ++ "`"
  | .duplicateTable k [] => "duplicate key `" ++ keyText k ++ "` in document root"
  | .duplicateTable k t =>
    "duplicate key `" ++ keyText k ++ "` in table `" ++ ".".intercalate t ++ "`"
  | .extendValue ks kind =>
    "dotted key `" ++ ".".intercalate ks ++ "` attempted to extend non-table type (" ++ kind ++ ")"

namespace Node

/-- The span a node was written at; an array of tables spans from its first header to
its last. -/
def span : Node → Span
  | .scalar _ s => s
  | .array _ s => s
  | .table _ s _ => s
  | .tables items =>
    match items.head?, items.getLast? with
    | some (first, _), some (last, _) => ⟨first.start, last.stop⟩
    | _, _ => ⟨0, 0⟩

def kind : Node → String
  | .scalar (.str _) _ => "string"
  | .scalar (.int _) _ => "integer"
  | .scalar (.float _) _ => "float"
  | .scalar (.bool _) _ => "boolean"
  | .scalar _ _ => "datetime"
  | .array _ _ => "array"
  | .table .inline _ _ => "inline table"
  | .table _ _ _ => "table"
  | .tables _ => "array of tables"

def isDotted : Node → Bool
  | .table .dotted _ _ => true
  | _ => false

/-- Changes the entries of the table a node stands for: its own, or those of the last
table of an array of tables. -/
def updateEntries (f : Entries → Except Fault Entries) : Node → Except Fault Node
  | .table o s es => return .table o s (← f es)
  | .tables items =>
    match items.getLast? with
    | some (sp, last) => return .tables (items.dropLast ++ [(sp, ← f last)])
    | none => return .tables []
  | n => return n

end Node

def lookup (es : Entries) (k : String) : Option Node := (es.find? (·.1 == k)).map (·.2)

def setEntry (es : Entries) (k : String) (n : Node) : Entries :=
  if es.any (·.1 == k) then es.map fun (k', n') => if k' == k then (k', n) else (k', n')
  else es ++ [(k, n)]

/-- Changes the entries of the table at a path of keys, each step into a table or the
last table of an array of tables. -/
def atTable (f : Entries → Except Fault Entries) : List String → Entries → Except Fault Entries
  | [], es => f es
  | k :: rest, es =>
    match lookup es k with
    | some n => return setEntry es k (← n.updateEntries (atTable f rest))
    | none => return es

/-- The node a header's parent key leads to: a table or array of tables to go into, a new
implicit table, or a refusal when the key holds a value. -/
def headerStep (keys : List String) (found : Option Node) (at_ : Span) : Except Fault Node :=
  match found with
  | none => .ok (.table .implicit at_ [])
  | some n@(.table .inline _ _) | some n@(.scalar _ _) | some n@(.array _ _) =>
    .error (.extendValue keys n.kind)
  | some n => .ok n

/-- The node a dotted key's inner key leads to: only dotted or implicit tables and
arrays of tables may be gone into, and a missing key opens a dotted table. -/
def dottedStep (keys : List String) (found : Option Node) (at_ : Span) : Except Fault Node :=
  match found with
  | none => .ok (.table .dotted at_ [])
  | some n@(.table .inline _ _) | some n@(.scalar _ _) | some n@(.array _ _) =>
    .error (.extendValue keys n.kind)
  | some n@(.table .dotted _ _) | some n@(.table .implicit _ _) | some n@(.tables _) => .ok n
  | some _ => .error (.duplicateKey (keys.getLastD "") none)

/-- Goes down a path of keys from some entries with a rule for each step, and changes the
entries found at the end; the flag tells whether the last table entered is dotted. -/
def descend (step : List String → Option Node → Span → Except Fault Node)
    (leaf : Bool → Entries → Except Fault Entries) :
    List String → List (String × Span) → Bool → Entries → Except Fault Entries
  | _, [], dotted, es => leaf dotted es
  | done, (k, sp) :: rest, _, es => do
    let keys := done ++ [k]
    let n ← step keys (lookup es k) sp
    let n ← n.updateEntries (descend step leaf keys rest n.isDotted)
    return setEntry es k n

/-- Adds `key = value` to the table opened by `header`, going through the dotted keys
before the last one. A key already there is a duplicate; so is a plain key added to a
dotted table or a dotted key that ends in a table opened otherwise. -/
def insertValue (root : Entries) (header : List String) (dotted : List (String × Span))
    (key : String) (v : Node) : Except Fault Entries :=
  atTable (descend dottedStep (fun isDotted es =>
    if isDotted == dotted.isEmpty then .error (.duplicateKey key none)
    else if (lookup es key).isSome then .error (.duplicateKey key (some header))
    else .ok (es ++ [(key, v)])) [] dotted false) header root

/-- Opens the table of a `[header]`: its parents are gone into or opened implicitly, and
the table itself must be new or opened only implicitly before. -/
def insertHeader (root : Entries) (path : List (String × Span)) (span : Span) :
    Except Fault Entries :=
  let parents := path.dropLast
  let names := path.map (·.1)
  match path.getLast? with
  | none => .ok root
  | some (k, _) =>
    descend headerStep (fun _ es =>
      match lookup es k with
      | none => .ok (es ++ [(k, .table .header span [])])
      | some (.table .implicit _ inner) => .ok (setEntry es k (.table .header span inner))
      | some _ => .error (.duplicateTable k names.dropLast)) [] parents false root

/-- Adds a table to the array of tables of a `[[header]]`, opening the array when new;
the table keeps the span of its header. -/
def insertTables (root : Entries) (path : List (String × Span)) (span : Span) :
    Except Fault Entries :=
  let parents := path.dropLast
  let names := path.map (·.1)
  match path.getLast? with
  | none => .ok root
  | some (k, _) =>
    descend headerStep (fun _ es =>
      match lookup es k with
      | none => .ok (es ++ [(k, .tables [(span, [])])])
      | some (.tables items) => .ok (setEntry es k (.tables (items ++ [(span, [])])))
      | some _ => .error (.duplicateTable k names.dropLast)) [] parents false root

/-- Builds an inline table from its `key = value` pairs in order: dotted keys open
dotted inline tables and go only through those, so a table written as a value is closed
to them, and a key given twice is refused. -/
def inlineEntries (pairs : List (List (String × Span) × String × Node)) :
    Except Fault Entries :=
  pairs.foldlM (fun es (dotted, key, v) =>
    descend (fun keys found at_ =>
      match found with
      | none => .ok (.table .dotted at_ [])
      | some n@(.table .dotted _ _) => .ok n
      | some (.table _ _ _) => .error (.duplicateKey (keys.getLastD "") none)
      | some n => .error (.extendValue keys n.kind))
      (fun isDotted inner =>
        if isDotted == dotted.isEmpty then .error (.duplicateKey key none)
        else if (lookup inner key).isSome then .error (.duplicateKey key none)
        else .ok (inner ++ [(key, v)])) [] dotted false es) []

mutual

/-- A node as a JSON value: tables as objects in the order written, date-times as
one-member objects that name their text. -/
def Node.toJson : Node → Json
  | .scalar v _ => v
  | .array items _ => .arr (nodesJson items)
  | .table _ _ es => .obj (entriesJson es)
  | .tables items => .arr (tablesJson items)

def nodesJson : List Node → List Json
  | [] => []
  | n :: rest => n.toJson :: nodesJson rest

def entriesJson : Entries → List (String × Json)
  | [] => []
  | (k, n) :: rest => (k, n.toJson) :: entriesJson rest

def tablesJson : List (Span × Entries) → List Json
  | [] => []
  | (_, es) :: rest => .obj (entriesJson es) :: tablesJson rest

end

def Node.child : Node → PathStep → Option Node
  | .table _ _ es, .key k => lookup es k
  | .array items _, .item i => items[i]?
  | .tables items, .item i => items[i]?.map fun (sp, es) => .table .header sp es
  | _, _ => none

def Node.follow : Node → List PathStep → Node
  | n, [] => n
  | n, step :: rest =>
    match n.child step with
    | some c => c.follow rest
    | none => n

/-- The span of the node at a path from the top of a document; none for the document
itself or a first key it does not have. -/
def spanAt (path : List PathStep) (root : Entries) : Option Span :=
  match path with
  | [] => none
  | step :: rest => ((Node.table .root ⟨0, 0⟩ root).child step).map fun c => (c.follow rest).span

end SwapDesk.Toml
