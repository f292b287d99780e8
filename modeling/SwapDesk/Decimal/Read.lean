import SwapDesk.Decimal.Basic

/-! # From an exact value to the nearest double

The rounding every decimal reader uses: the double nearest to `±n/d`, ties to the even mantissa,
with overflow to infinity and gradual underflow.
-/

namespace SwapDesk

/-- `⌊log₂ (n/d)⌋` for positive `n` and `d`, from the bit lengths and one exact test. -/
def floorLog2Ratio (n d : Nat) : Int :=
  let k : Int := (n.log2 : Int) - (d.log2 : Int)
  -- `2^k ≤ n/d` holds or fails by one step only
  if n * Nat.pow 2 (-k).toNat < d * Nat.pow 2 k.toNat then k - 1 else k

/-- The bits of the double nearest to `n/d`, positive, with `d > 0`. The significand is
`n/d · 2^(-e)` rounded half to even, where `e` is the exponent of the last mantissa bit in
the binade of `n/d` (never below the subnormal one). A carry into `2^53` moves to the next
binade by the same bit pattern arithmetic. -/
def magnitudeBits (n d : Nat) : UInt64 :=
  if n = 0 then 0
  else
    let e : Int := max (floorLog2Ratio n d) (-1022) - 52
    let m := divRoundEven (n * Nat.pow 2 (-e).toNat) (d * Nat.pow 2 e.toNat)
    -- `m < 2^53`, or `m = 2^53` after a carry; subnormals have `m < 2^52` and `e = -1074`
    let field : Int := if m < Nat.pow 2 52 then 0 else e + 1075
    if field ≥ 0x7FF ∨ (m ≥ Nat.pow 2 53 ∧ field + 1 ≥ 0x7FF) then 0x7FF0000000000000
    else
      -- the carry case adds one to the field through the addition of `m`'s top bit
      (field.toNat.toUInt64 <<< 52) + (m - (if m < Nat.pow 2 52 then 0 else Nat.pow 2 52)).toUInt64

def nearestFloat (negative : Bool) (n d : Nat) : Float :=
  Float.ofBits ((if negative then 0x8000000000000000 else 0) ||| magnitudeBits n d)

def Decimal.toFloat (negative : Bool) (x : Decimal) : Float :=
  nearestFloat negative (x.digits * Nat.pow 10 x.exponent.toNat) (Nat.pow 10 (-x.exponent).toNat)

end SwapDesk
