import SwapDesk.Decimal.Read

/-! # JSON documents

Whole numbers are kept exact as integers (`int`), so a field that wants a whole number can
refuse a written point and identifiers up to `2^64 - 1` never pass through a double. Objects keep
their members in order, so a writer reproduces a structure's field order.
-/

namespace SwapDesk

inductive Json where
  | null
  | bool (b : Bool)
  /-- a number written as a whole number that fits a 64-bit integer -/
  | int (i : Int)
  /-- any other number -/
  | float (x : Float)
  | str (s : String)
  | arr (items : List Json)
  /-- an object, members in order -/
  | obj (members : List (String × Json))
  deriving Inhabited

/-- One step into a document: a member by its key, or an item by its position from zero. -/
inductive PathStep where
  | key (k : String)
  | item (i : Nat)
  deriving DecidableEq, Repr

namespace Json

/-- The member of an object under a key, the first one if the key repeats. -/
def get? : Json → String → Option Json
  | .obj ms, k => (ms.find? (·.1 == k)).map (·.2)
  | _, _ => none

/-- The member under a key, with `null` standing for a missing one. -/
def getOrNull (j : Json) (k : String) : Json := (j.get? k).getD .null

def isNull : Json → Bool
  | .null => true
  | _ => false

/-- A whole number that is not negative. -/
def asNat? : Json → Option Nat
  | .int i => if 0 ≤ i then some i.toNat else none
  | _ => none

def asStr? : Json → Option String
  | .str s => some s
  | _ => none

def asArr? : Json → Option (List Json)
  | .arr xs => some xs
  | _ => none

def asBool? : Json → Option Bool
  | .bool b => some b
  | _ => none

/-- A number as a double: integers are rounded to the nearest double. -/
def asFloat? : Json → Option Float
  | .float x => some x
  | .int i => some (nearestFloat (i < 0) i.natAbs 1)
  | _ => none

def nat (n : Nat) : Json := .int n

end Json

end SwapDesk
