import SwapDesk.Ledger.Swap
import SwapDesk.Json.Basic
import SwapDesk.Decimal.Round

/-! # Weekly swap volume

Per week from Sunday, the USDC legs of the swaps in a window of `days` days up to `asOf`, both
ends included, summed in ledger order and rounded to whole USDC. Undefined (`none`) when the
window or a swap's Sunday leaves the calendar.
-/

namespace SwapDesk

/-- The volume of one week in both directions, in whole USDC. -/
structure WeekVolume where
  weekStart : Date
  solToUsdc : UInt64
  usdcToSol : UInt64
  deriving DecidableEq, Repr

/-- The USD-like amount a swap adds to its direction's volume. -/
def Swap.usdLeg (s : Swap) : Float :=
  match s.direction with
  | .solToUsdc => s.amountOut
  | .usdcToSol => s.amountIn

/-- Inserts a date into a strictly increasing list of dates, keeping it so. -/
def insertDate (d : Date) : List Date → List Date
  | [] => [d]
  | e :: es => if d < e then d :: e :: es else if d = e then e :: es else e :: insertDate d es

def legSum (swaps : List (Swap × Date)) (week : Date) (dir : Direction) : Float :=
  (swaps.filter fun (s, w) => w = week ∧ s.direction = dir).foldl (fun acc (s, _) => acc + s.usdLeg) 0.0

def weeklyVolume (swaps : List Swap) (days : Nat) (asOf : Instant) : Option (List WeekVolume) := do
  let start ← asOf.subDays? days
  let inWindow := swaps.filter fun s => decide (start ≤ s.time) && decide (s.time ≤ asOf)
  let keyed ← inWindow.mapM fun s => (s, ·) <$> s.time.date.weekStart?
  let weeks := keyed.foldl (fun ws (_, w) => insertDate w ws) []
  return weeks.map fun w =>
    ⟨w, (roundHalfAway (legSum keyed w .solToUsdc)).toUInt64,
      (roundHalfAway (legSum keyed w .usdcToSol)).toUInt64⟩

def WeekVolume.toJson (v : WeekVolume) : Json :=
  .obj [("weekStart", .str v.weekStart.text), ("solToUsdc", .nat v.solToUsdc.toNat),
    ("usdcToSol", .nat v.usdcToSol.toNat)]

/-- The bar chart of weekly volumes: a label per week (`Feb 8`) and the two series. -/
def volumeChart (weeks : List WeekVolume) : Json :=
  .obj [("labels", .arr (weeks.map fun w => .str w.weekStart.shortLabel)),
    ("solToUsdc", .arr (weeks.map fun w => .nat w.solToUsdc.toNat)),
    ("usdcToSol", .arr (weeks.map fun w => .nat w.usdcToSol.toNat))]

end SwapDesk
