import SwapDesk.Text.Digits

/-! # Decimals and the exact value of a double

A finite double as `mantissa · 2^exponent`, decimals as `digits · 10^exponent`, and the exact
arithmetic on naturals that the printers and the reader share.
-/

namespace SwapDesk

/-- A decimal number `digits · 10^exponent`; the sign is kept apart by its users. -/
structure Decimal where
  digits : Nat
  exponent : Int
  deriving DecidableEq, Repr

/-- A finite binary magnitude `mantissa · 2^exponent`. `narrowBelow` marks the first
mantissa of a binade above the subnormals, whose lower neighbour is twice as close as its
upper one. -/
structure Binary where
  mantissa : Nat
  exponent : Int
  narrowBelow : Bool
  deriving DecidableEq, Repr

inductive FloatKind where
  | nan
  | infinite (negative : Bool)
  | finite (negative : Bool) (magnitude : Binary)
  deriving DecidableEq, Repr

/-- Reads sign, exponent field and fraction field out of the bit pattern of a double. -/
def FloatKind.ofBits (bits : UInt64) : FloatKind :=
  let negative := bits >>> 63 == 1
  let field := ((bits >>> 52) &&& 0x7FF).toNat
  let fraction := (bits &&& 0xFFFFFFFFFFFFF).toNat
  if field = 0x7FF then
    if fraction = 0 then .infinite negative else .nan
  else if field = 0 then
    .finite negative ⟨fraction, -1074, false⟩
  else
    .finite negative ⟨fraction + Nat.pow 2 52, (field : Int) - 1075, fraction = 0 ∧ field > 1⟩

/-- `n / d` rounded to the nearest natural number; an exact half goes to the even one. -/
def divRoundEven (n d : Nat) : Nat :=
  let q := n / d
  let r := n % d
  if 2 * r < d then q
  else if d < 2 * r then q + 1
  else if q % 2 = 0 then q else q + 1

/-- Compares `a · 10^i` with `b · 2^j` exactly, moving negative powers to the other side. -/
def scaledCompare (a : Nat) (i : Int) (b : Nat) (j : Int) : Ordering :=
  compare (a * Nat.pow 10 i.toNat * Nat.pow 2 (-j).toNat) (b * Nat.pow 2 j.toNat * Nat.pow 10 (-i).toNat)

def Decimal.trim (d : Decimal) : Decimal :=
  if d.digits ≠ 0 ∧ d.digits % 10 = 0 then
    Decimal.trim ⟨d.digits / 10, d.exponent + 1⟩
  else d
termination_by d.digits
decreasing_by omega

end SwapDesk

namespace Float

def kind (x : Float) : SwapDesk.FloatKind := SwapDesk.FloatKind.ofBits x.toBits

end Float
