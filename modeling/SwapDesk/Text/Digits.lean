/-! # Decimal digits of natural numbers

The digit strings every printer builds on.
-/

namespace SwapDesk

/-- The number of decimal digits of `n`, counting `0` as one digit. -/
def digitCount (n : Nat) : Nat :=
  if n < 10 then 1 else digitCount (n / 10) + 1
termination_by n
decreasing_by omega

def digitString (n : Nat) : String := String.ofList (Nat.toDigits 10 n)

/-- `n` written with at least `width` digits, padded on the left with zeros. -/
def digitStringPadded (n width : Nat) : String :=
  let s := digitString n
  String.ofList (List.replicate (width - s.length) '0') ++ s

end SwapDesk
