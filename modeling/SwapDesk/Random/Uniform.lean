import SwapDesk.Random.MinStd

/-! # Uniform indices

An index below `n` by a widening multiply of a random word by `n` with rejection, 32-bit words
for lengths that fit 32 bits and 64-bit words otherwise. One cycle of the generator passes state
`1`, whose word `0` is always accepted, so a cycle of draws bounds the loop.
-/

namespace SwapDesk

namespace MinStd

def leadingZeros (width n : Nat) : Nat := width - n.log2 - 1

def zone (width n : Nat) : Nat := n * Nat.pow 2 (leadingZeros width n) - 1

/-- Draws words of `width` bits (32 or 64) until the low half of `word · n` falls in the
zone, at most `fuel` times, and returns the high half. -/
def rejectionLoop (width n : Nat) : Nat → Draw (Option Nat)
  | 0 => pure none
  | fuel + 1 => do
    let v ← if width = 32 then (fun w => w.toNat) <$> nextWord32 else (fun w => w.toNat) <$> nextWord64
    let m := v * n
    if m % Nat.pow 2 width ≤ zone width n then return some (m / Nat.pow 2 width)
    else rejectionLoop width n fuel

def period : Nat := 2147483646

def uniformIndex (n : Nat) : Draw (Option Nat) :=
  if n = 0 then pure none
  else if n < Nat.pow 2 32 then rejectionLoop 32 n period
  else rejectionLoop 64 n period

end MinStd

end SwapDesk
