import SwapDesk.Decimal.Basic

/-! # The shortest decimal that reads back

The reals that round to `m · 2^q` form an interval, closed when `m` is even since a reader
sends a tie to the even mantissa. `Binary.shortest` takes the first grid of one to seventeen
significant digits with a point in it, the nearer of its two candidates, a tie as `Tie` says.
-/

namespace SwapDesk

inductive Tie where
  | toEven
  | up
  deriving DecidableEq, Repr

namespace Binary

/-- The interval of reals that round to `b`, in units of `2^(exponent - 2)`:
`(lowQuarter, highQuarter, closed)`. -/
def bounds (b : Binary) : Nat × Nat × Bool :=
  let low := if b.narrowBelow then 4 * b.mantissa - 1 else 4 * b.mantissa - 2
  (low, 4 * b.mantissa + 2, b.mantissa % 2 = 0)

def admits (b : Binary) (c : Nat) (e : Int) : Bool :=
  let (low, high, closed) := b.bounds
  let aboveLow := scaledCompare c e low (b.exponent - 2)
  let belowHigh := scaledCompare c e high (b.exponent - 2)
  if closed then aboveLow != .lt && belowHigh != .gt
  else aboveLow == .gt && belowHigh == .lt

/-- `⌊m · 2^q / 10^e⌋`, the grid point at or below the value on the grid `10^e`. -/
def gridFloor (b : Binary) (e : Int) : Nat :=
  (b.mantissa * Nat.pow 2 b.exponent.toNat * Nat.pow 10 (-e).toNat) /
    (Nat.pow 2 (-b.exponent).toNat * Nat.pow 10 e.toNat)

/-- The decimal exponent of the leading digit, `⌊log₁₀ (m · 2^q)⌋`, for `m > 0`.
Scaling by `10^400` lifts every positive double above one. -/
def leadExponent (b : Binary) : Int :=
  (digitCount (b.gridFloor (-400)) : Int) - 1 - 400

/-- The point of the grid `10^e` that `b` picks among `c` and `c + 1`, if either lies in
its interval: the nearer one, or the one `tie` names when both are as near. -/
def pick (b : Binary) (tie : Tie) (e : Int) : Option Nat :=
  let c := b.gridFloor e
  match b.admits c e, b.admits (c + 1) e with
  | false, false => none
  | true, false => some c
  | false, true => some (c + 1)
  | true, true =>
    -- twice the value against the midpoint `(2c + 1) · 10^e`
    match scaledCompare (2 * c + 1) e (2 * b.mantissa) b.exponent with
    | .gt => some c
    | .lt => some (c + 1)
    | .eq =>
      match tie with
      | .toEven => if c % 2 = 0 then some c else some (c + 1)
      | .up => some (c + 1)

/-- The shortest decimal in the rounding interval of a positive `b`, nearest among those,
`tie` choosing between two as near. Seventeen significant digits always suffice; the last
line is never reached. -/
def shortest (b : Binary) (tie : Tie) : Decimal :=
  let lead := b.leadExponent
  let grid (n : Nat) : Int := lead - (n : Int) + 1
  match (List.range 17).findSome? (fun n => (b.pick tie (grid (n + 1))).map (·, grid (n + 1))) with
  | some (c, e) => Decimal.trim ⟨c, e⟩
  | none => Decimal.trim ⟨b.gridFloor (grid 17), grid 17⟩

end Binary

end SwapDesk
