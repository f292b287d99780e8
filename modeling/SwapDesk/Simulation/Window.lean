import SwapDesk.Calendar.Date

/-! # The history window

Four inclusive dates bound the simulated history and start its balanced and SOL-dominant
phases; a window is valid when they do not decrease.
-/

namespace SwapDesk

inductive Phase where
  /-- the USDC leg compounds, the SOL leg is noise -/
  | usdcDominant
  /-- both legs compound -/
  | balanced
  /-- the SOL leg compounds, the USDC leg is noise -/
  | solDominant
  deriving DecidableEq, Repr

def Phase.name : Phase → String
  | .usdcDominant => "UsdcDominant"
  | .balanced => "Balanced"
  | .solDominant => "SolDominant"

structure HistoryWindow where
  start : Date
  phase2 : Date
  phase3 : Date
  finish : Date
  deriving DecidableEq, Repr

namespace HistoryWindow

/-- 2025-11-14 to 2026-02-11, the balanced phase from 2025-12-16 and the SOL-dominant
phase from 2026-01-16. -/
def default : HistoryWindow :=
  ⟨⟨Date.dayOfCivil 2025 11 14⟩, ⟨Date.dayOfCivil 2025 12 16⟩, ⟨Date.dayOfCivil 2026 1 16⟩,
    ⟨Date.dayOfCivil 2026 2 11⟩⟩

def isOrdered (w : HistoryWindow) : Bool :=
  decide (w.start ≤ w.phase2 ∧ w.phase2 ≤ w.phase3 ∧ w.phase3 ≤ w.finish)

/-- The number of days from the first to the last date, negative if they are reversed. -/
def totalDays (w : HistoryWindow) : Int := w.finish.day - w.start.day

def phaseOf (w : HistoryWindow) (d : Date) : Phase :=
  if d < w.phase2 then .usdcDominant
  else if d < w.phase3 then .balanced
  else .solDominant

end HistoryWindow

inductive SimulationError where
  /-- a seed that is a multiple of `2^31 - 1` -/
  | degenerateSeed (seed : UInt64)
  /-- a window whose dates decrease somewhere -/
  | invalidWindow (w : HistoryWindow)
  deriving DecidableEq, Repr

def SimulationError.message : SimulationError → String
  | .degenerateSeed s =>
    "Degenerate PRNG seed: " ++ toString s ++ " (must not be a multiple of 2^31 - 1)"
  | .invalidWindow w =>
    "Invalid history window: start " ++ w.start.text ++ ", phase 2 " ++ w.phase2.text ++
      ", phase 3 " ++ w.phase3.text ++ ", end " ++ w.finish.text

/-- The window itself, or the error that names it when its dates are out of order. -/
def HistoryWindow.validate (w : HistoryWindow) : Except SimulationError HistoryWindow :=
  if w.isOrdered then .ok w else .error (.invalidWindow w)

end SwapDesk
