import SwapDesk.Simulation.Window
import SwapDesk.Random.MinStd
import SwapDesk.Decimal.Round

/-! # The simulated PnL history

One sample per day of a valid window. Each day draws the jitter of a SOL price that otherwise
climbs from 95 to 148.32, then one number per leg, read by the day's `Phase`: a compounding leg
earns a drawn percentage of its cumulative, the other is noise. Running sums stay unrounded.
-/

namespace SwapDesk

structure DaySample where
  date : Date
  dailyPnl : Float
  cumulativePnl : Float
  dailySolPnl : Float
  cumulativeSolPnl : Float
  dailyUsdcPnl : Float
  cumulativeUsdcPnl : Float
  solPrice : Float

structure PnlTotals where
  usd : Float := 0.0
  sol : Float := 0.0
  usdc : Float := 0.0

/-- The two legs of a day's result, USDC and SOL, drawn as the phase says. -/
def Phase.legs (p : Phase) (t : PnlTotals) : Draw (Float × Float) := do
  match p with
  | .usdcDominant =>
    let a ← MinStd.nextFloat
    let b ← MinStd.nextFloat
    return ((1200.0 + t.usdc) * ((a * 0.5 + 0.1) / 100.0), (b - 0.45) * 0.002)
  | .balanced =>
    let a ← MinStd.nextFloat
    let b ← MinStd.nextFloat
    return ((1200.0 + t.usdc) * ((a * 0.35 + 0.05) / 100.0), (5.0 + t.sol) * ((b * 0.6 + 0.1) / 100.0))
  | .solDominant =>
    let a ← MinStd.nextFloat
    let b ← MinStd.nextFloat
    return ((a - 0.45) * 0.5, (5.0 + t.sol) * ((b * 1.2 + 0.4) / 100.0))

/-- Simulates day `i` of a window of `total` days, given the running sums before it;
returns the rounded sample and the new sums. -/
def simulateDay (w : HistoryWindow) (total : Nat) (i : Nat) (t : PnlTotals) :
    Draw (DaySample × PnlTotals) := do
  let date : Date := ⟨w.start.day + i⟩
  let progress := if total = 0 then 0.0 else Float.ofNat i / Float.ofNat total
  let jitter ← MinStd.nextFloat
  let price := 95.0 + (148.32 - 95.0) * progress + (jitter - 0.5) * 4.0
  let (usdc, sol) ← (w.phaseOf date).legs t
  let sums : PnlTotals := { sol := t.sol + sol, usdc := t.usdc + usdc, usd := 0.0 }
  let usd := usdc + sol * price
  let sums := { sums with usd := t.usd + usd }
  return (⟨date, roundTo usd 2, roundTo sums.usd 2, roundTo sol 4, roundTo sums.sol 4,
    roundTo usdc 2, roundTo sums.usdc 2, roundTo price 2⟩, sums)

def simulateDays (w : HistoryWindow) (total : Nat) : Nat → Nat → PnlTotals → Draw (List DaySample)
  | 0, _, _ => pure []
  | n + 1, i, t => do
    let (s, t) ← simulateDay w total i t
    let rest ← simulateDays w total n (i + 1) t
    return s :: rest

/-- The history over a window, drawing from the caller's generator; a window out of order
is refused before any draw. -/
def generateHistory (w : HistoryWindow) (g : MinStd) :
    Except SimulationError (List DaySample × MinStd) := do
  let w ← w.validate
  let total := w.totalDays.toNat
  return (simulateDays w total (total + 1) 0 {}).run g

def historyOfSeed (seed : UInt64) : Except SimulationError (List DaySample) := do
  match MinStd.ofSeed? seed with
  | none => throw (.degenerateSeed seed)
  | some g => return (← generateHistory HistoryWindow.default g).1

end SwapDesk
