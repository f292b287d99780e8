import SwapDesk.Dashboard.Basic
import SwapDesk.Text.Amount
import SwapDesk.Text.Pad
import SwapDesk.Json.Write
import SwapDesk.Ledger.Json
import SwapDesk.Analytics.PnlRange

/-! # What the commands print

Each command prints a text table or, on request, pretty JSON, and every output ends with a line
break.
-/

namespace SwapDesk.Cli

def unlines (ls : List String) : String := String.join (ls.map (· ++ "\n"))

def jsonOutput (j : Json) : String := Json.pretty j ++ "\n"

def historyHeader : String :=
  padRight "Date" 12 ++ " " ++ padLeft "Daily" 10 ++ " " ++ padLeft "Cumulative" 12 ++ " " ++
    padLeft "SOL" 10 ++ " " ++ padLeft "SOL cum" 12 ++ " " ++ padLeft "USDC" 10 ++ " " ++
    padLeft "USDC cum" 12 ++ " " ++ padLeft "SOL/USD" 9

def DaySample.row (s : DaySample) : String :=
  padRight s.date.text 12 ++ " " ++ padLeft (formatNumber s.dailyPnl 2) 10 ++ " " ++
    padLeft (formatNumber s.cumulativePnl 2) 12 ++ " " ++ padLeft (s.dailySolPnl.toFixed 4) 10 ++
    " " ++ padLeft (s.cumulativeSolPnl.toFixed 4) 12 ++ " " ++
    padLeft (formatNumber s.dailyUsdcPnl 2) 10 ++ " " ++
    padLeft (formatNumber s.cumulativeUsdcPnl 2) 12 ++ " " ++ padLeft (formatNumber s.solPrice 2) 9

def historyOutput (samples : List DaySample) (json : Bool) : String :=
  if json then jsonOutput (pnlChart samples)
  else unlines (historyHeader :: samples.map DaySample.row)

def ledgerHeader : String :=
  padLeft "ID" 4 ++ "  " ++ padRight "Date" 20 ++ " " ++ padRight "Type" 14 ++ " " ++
    padLeft "Amount In" 12 ++ " " ++ padLeft "Amount Out" 12 ++ " " ++ padLeft "Slippage" 9 ++
    " " ++ padLeft "Fee" 9 ++ " " ++ padRight "Status" 10 ++ " " ++ "Signature"

def tokenAmount (x : Float) (t : Token) : String := formatNumber x t.places ++ " " ++ t.symbol

/-- One swap of the ledger table; the status is not padded. -/
def Swap.row (s : Swap) : String :=
  padLeft (toString s.id.toNat) 4 ++ "  " ++ padRight (s.time.date.text ++ " " ++ s.time.clockText) 20 ++
    " " ++ padRight s.direction.label 14 ++ " " ++ padLeft (tokenAmount s.amountIn s.tokenIn) 12 ++
    " " ++ padLeft (tokenAmount s.amountOut s.tokenOut) 12 ++ " " ++
    padLeft (bpsToPercent s.slippageBps).toPlain 8 ++ "% " ++ padLeft s.fee.toPlain 9 ++ " " ++
    s.status.name ++ " " ++ truncateSignature s.signature

def ledgerOutput (p : Page Swap) (json : Bool) : String :=
  if json then
    jsonOutput (.obj [("records", .arr (p.items.map Swap.toJson)), ("info", p.info.toJson)])
  else
    unlines (ledgerHeader :: p.items.map Swap.row ++
      [p.info.summary ++ "  |  " ++ p.info.indicator])

def WeekVolume.row (w : WeekVolume) : String :=
  padRight w.weekStart.text 12 ++ " " ++ padLeft (formatUsd (Float.ofNat w.solToUsdc.toNat)) 14 ++
    " " ++ padLeft (formatUsd (Float.ofNat w.usdcToSol.toNat)) 14

def volumeOutput (weeks : List WeekVolume) (json : Bool) : String :=
  if json then jsonOutput (volumeChart weeks)
  else
    unlines ((padRight "Week of" 12 ++ " " ++ padLeft "SOL -> USDC" 14 ++ " " ++
      padLeft "USDC -> SOL" 14) :: weeks.map WeekVolume.row ++
      (if weeks.isEmpty then ["No swaps in the window"] else []))

def portfolioOutput (s : Snapshot) (json : Bool) : String :=
  if json then jsonOutput s.toJson
  else
    let a := allocation s.sol s.usdc
    unlines
      ["Total value   " ++ formatUsd (totalValue s.sol s.usdc),
       "SOL vault     " ++ formatNumber s.sol.balance 4 ++ " SOL  (" ++ formatUsd s.sol.value ++
         ", " ++ a.solPct.toFixed 1 ++ "%)",
       "USDC vault    " ++ formatNumber s.usdc.balance 2 ++ " USDC  (" ++ formatUsd s.usdc.value ++
         ", " ++ a.usdcPct.toFixed 1 ++ "%)",
       "Fee pool      " ++ formatNumber s.feePool.balance 4 ++ " SOL  (" ++ formatUsd s.feePoolUsd ++
         ")  " ++ s.feePool.health.label ++ "  [" ++ s.feePool.fillPct.toFixed 0 ++
         "% of target, min at " ++ s.feePool.minMarkerPct.toFixed 0 ++ "%]",
       "All-time PnL  " ++ formatUsd s.pnl.allTimePnl,
       "  SOL leg     " ++ formatNumber s.pnl.allTimeSolPnl 4 ++ " SOL  (" ++
         s.pnl.solReturnPct.toSignedFixed 2 ++ "%)",
       "  USDC leg    " ++ formatNumber s.pnl.allTimeUsdcPnl 2 ++ " USDC  (" ++
         s.pnl.usdcReturnPct.toSignedFixed 2 ++ "%)"]

end SwapDesk.Cli
