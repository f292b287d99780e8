import SwapDesk.Simulation.History
import SwapDesk.Ledger.Json

/-! # Simulated values as JSON

A day sample reads back only with all eight fields present and numeric.
-/

namespace SwapDesk

def DaySample.toJson (s : DaySample) : Json :=
  .obj [("date", s.date.toJson), ("dailyPnl", .float s.dailyPnl),
    ("cumulativePnl", .float s.cumulativePnl), ("dailySolPnl", .float s.dailySolPnl),
    ("cumulativeSolPnl", .float s.cumulativeSolPnl), ("dailyUsdcPnl", .float s.dailyUsdcPnl),
    ("cumulativeUsdcPnl", .float s.cumulativeUsdcPnl), ("solPrice", .float s.solPrice)]

/-- Reads a day sample: every field required. -/
def DaySample.ofJson (j : Json) : Except DecodeError DaySample := do
  let j ← Json.toStruct "PnlSample" ["date", "dailyPnl", "cumulativePnl", "dailySolPnl",
    "cumulativeSolPnl", "dailyUsdcPnl", "cumulativeUsdcPnl", "solPrice"] j
  return {
    date := ← j.field "date" Date.ofJson
    dailyPnl := ← j.field "dailyPnl" Json.toF64
    cumulativePnl := ← j.field "cumulativePnl" Json.toF64
    dailySolPnl := ← j.field "dailySolPnl" Json.toF64
    cumulativeSolPnl := ← j.field "cumulativeSolPnl" Json.toF64
    dailyUsdcPnl := ← j.field "dailyUsdcPnl" Json.toF64
    cumulativeUsdcPnl := ← j.field "cumulativeUsdcPnl" Json.toF64
    solPrice := ← j.field "solPrice" Json.toF64 }

def HistoryWindow.toJson (w : HistoryWindow) : Json :=
  .obj [("start", w.start.toJson), ("phase2Start", w.phase2.toJson),
    ("phase3Start", w.phase3.toJson), ("end", w.finish.toJson)]

end SwapDesk
