import SwapDesk.Ledger.Swap
import SwapDesk.Decimal.Layout

/-! # The ledger as CSV

A bare header line, then one line per swap in the order given, every field quoted with inner
quotes doubled; lines are joined by `\n`, with none after the last.
-/

namespace SwapDesk

def csvHeader : String :=
  "Date,Type,Amount In,Token In,Amount Out,Token Out,Slippage (bps),Fee,Status,Signature"

/-- A field in double quotes, a quote inside written twice. -/
def csvQuote (s : String) : String :=
  "\"" ++ String.join (s.toList.map fun c => if c = '"' then "\"\"" else c.toString) ++ "\""

def Swap.csvFields (s : Swap) : List String :=
  [s.time.text .millis true, s.direction.wireName, s.amountIn.toPlain, s.tokenIn.symbol,
    s.amountOut.toPlain, s.tokenOut.symbol, toString s.slippageBps, s.fee.toPlain,
    s.status.name, s.signature]

def Swap.csvLine (s : Swap) : String := ",".intercalate (s.csvFields.map csvQuote)

def swapsCsv (swaps : List Swap) : String :=
  "\n".intercalate (csvHeader :: swaps.map Swap.csvLine)

/-- The file name of an export made on a date: `<stem>-transactions-<date>.csv`. -/
def exportFileName (stem : String) (d : Date) : String :=
  stem ++ "-transactions-" ++ d.text ++ ".csv"

end SwapDesk
