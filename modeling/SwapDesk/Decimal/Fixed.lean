import SwapDesk.Decimal.Basic

/-! # A double to a fixed number of places

The exact binary value rounded, a tie to the even digit: `0.125` ties at two places, `0.1` does not.
-/

namespace SwapDesk

namespace Binary

/-- `m · 2^q · 10^places` rounded to the nearest integer, a tie to the even one. -/
def scaledRound (b : Binary) (places : Nat) : Nat :=
  divRoundEven (b.mantissa * Nat.pow 2 b.exponent.toNat * Nat.pow 10 places) (Nat.pow 2 (-b.exponent).toNat)

/-- The digits of `b` rounded to `places` places: an integer part and, when `places > 0`,
a point and exactly `places` digits. -/
def fixed (b : Binary) (places : Nat) : String :=
  let n := b.scaledRound places
  let whole := digitString (n / Nat.pow 10 places)
  if places = 0 then whole
  else whole ++ "." ++ digitStringPadded (n % Nat.pow 10 places) places

end Binary

end SwapDesk
