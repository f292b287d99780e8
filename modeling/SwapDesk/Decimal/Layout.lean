import SwapDesk.Decimal.Shortest
import SwapDesk.Decimal.Fixed

/-! # Writing a double as text

Every number text starts from the shortest digits that read back or from a fixed number of
places; a `FloatLayout` gathers the few decisions that tell the JSON syntax from the plain one
of tables and messages. A set sign bit always writes a minus, so negative zero reads `-0`.
-/

namespace SwapDesk

/-- The decisions that tell one shortest-digit format of doubles from another. -/
structure FloatLayout where
  /-- whether a value in `[10^(k-1), 10^k)` is written without an exponent -/
  positional : Int → Bool
  /-- whether a whole number keeps a point and one zero -/
  pointZero : Bool
  /-- whether a positive exponent is written with a plus sign -/
  plusExponent : Bool
  /-- where a value halfway between its two nearest shortest decimals goes -/
  tie : Tie
  /-- the text of a NaN -/
  nan : String
  /-- the text of an infinity, without its sign -/
  infinity : String

/-- JSON numbers: positional from `1e-5` to below `1e16`, whole numbers as `100.0`, an
exponent as `1e+16` or `1.5e-7`, a tie to the even digit. JSON has no NaN or infinity; its
writer replaces them. -/
def FloatLayout.json : FloatLayout :=
  ⟨fun k => -5 < k ∧ k ≤ 16, true, true, .toEven, "null", "null"⟩

/-- Amounts in text: never an exponent and no `.0`, so `100`, `0.0000001` and
`1000000000000000000000`; a tie goes up, so `965951276801413.25` reads `965951276801413.3`. -/
def FloatLayout.plain : FloatLayout :=
  ⟨fun _ => true, false, false, .up, "NaN", "inf"⟩

def Decimal.positional (d : Decimal) (pointZero : Bool) : String :=
  let s := digitString d.digits
  let zeros (n : Nat) := String.ofList (List.replicate n '0')
  if 0 ≤ d.exponent then
    s ++ zeros d.exponent.toNat ++ (if pointZero then ".0" else "")
  else
    let point := (s.length : Int) + d.exponent
    if 0 < point then
      String.ofList (s.toList.take point.toNat) ++ "." ++ String.ofList (s.toList.drop point.toNat)
    else "0." ++ zeros (-point).toNat ++ s

/-- A positive decimal as one digit, the others after a point, and `e` with the exponent,
a positive one after a plus sign if `plus` says so. -/
def Decimal.scientific (d : Decimal) (plus : Bool) : String :=
  let s := digitString d.digits
  let exp := (s.length : Int) + d.exponent - 1
  let lead := String.ofList (s.toList.take 1)
  let rest := String.ofList (s.toList.drop 1)
  lead ++ (if rest.isEmpty then "" else "." ++ rest) ++ "e" ++
    (if plus ∧ 0 ≤ exp then "+" else "") ++ toString exp

def FloatLayout.render (l : FloatLayout) (x : Float) : String :=
  match x.kind with
  | .nan => l.nan
  | .infinite neg => (if neg then "-" else "") ++ l.infinity
  | .finite neg b =>
    let sign := if neg then "-" else ""
    if b.mantissa = 0 then sign ++ (if l.pointZero then "0.0" else "0")
    else
      let d := b.shortest l.tie
      let point := (digitString d.digits).length + d.exponent
      sign ++ (if l.positional point then d.positional l.pointZero else d.scientific l.plusExponent)

end SwapDesk

namespace Float

open SwapDesk

/-- A double with exactly `places` decimals, rounded half to even on its exact value;
`NaN`, `inf` and `-inf` stay words. -/
def toFixed (x : Float) (places : Nat) : String :=
  match x.kind with
  | .nan => "NaN"
  | .infinite neg => if neg then "-inf" else "inf"
  | .finite neg b => (if neg then "-" else "") ++ b.fixed places

/-- As `Float.toFixed`, with a `+` in front of every value whose sign bit is clear. -/
def toSignedFixed (x : Float) (places : Nat) : String :=
  match x.kind with
  | .nan => "NaN"
  | .infinite neg => if neg then "-inf" else "+inf"
  | .finite neg b => (if neg then "-" else "+") ++ b.fixed places

def toPlain (x : Float) : String := SwapDesk.FloatLayout.plain.render x

end Float
