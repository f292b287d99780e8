import SwapDesk.Simulation.History
import SwapDesk.Ledger.QueryError
import SwapDesk.Json.Basic
import SwapDesk.Text.Lower

/-! # Ranges of the PnL history

The trailing days a chart shows, or all of them. `all` reads in any ASCII case, a number of days
with trailing `d`s, a `+` and leading zeros, up to `2^64 - 1`.
-/

namespace SwapDesk

inductive PnlRange where
  | days (n : Nat)
  | all
  deriving DecidableEq, Repr

namespace PnlRange

def default : PnlRange := .days 90

def text : PnlRange → String
  | .days n => toString n ++ "d"
  | .all => "all"

/-- Reads an unsigned whole number: an optional `+` and at least one digit, nothing else,
below `2^64`. -/
def parseWord (cs : List Char) : Option Nat :=
  let ds := match cs with
    | '+' :: rest => rest
    | _ => cs
  if ds.isEmpty ∨ !ds.all Char.isDigit then none
  else
    let n := ds.foldl (fun n c => 10 * n + (c.toNat - '0'.toNat)) 0
    if n < Nat.pow 2 64 then some n else none

/-- Reads a range; the error names the trimmed text. -/
def parse (s : String) : Except QueryError PnlRange :=
  let t := trimBlank s
  if asciiCaseEq t "all" then .ok .all
  else
    match parseWord (t.toList.reverse.dropWhile (· = 'd')).reverse with
    | some n => if n > 0 then .ok (.days n) else .error (.unknownRange t)
    | none => .error (.unknownRange t)

def toJson : PnlRange → Json
  | .all => .str "All"
  | .days n => .obj [("Days", .nat n)]

/-- The samples a range keeps: the last `n`, or all. -/
def slice (r : PnlRange) (h : List DaySample) : List DaySample :=
  match r with
  | .all => h
  | .days n => h.drop (h.length - n)

end PnlRange

/-- The line chart of a history: a label per day (`Feb 8`) and the three cumulative
series, total, USDC and SOL. -/
def pnlChart (samples : List DaySample) : Json :=
  .obj [("labels", .arr (samples.map fun s => .str s.date.shortLabel)),
    ("totalValues", .arr (samples.map fun s => .float s.cumulativePnl)),
    ("usdcValues", .arr (samples.map fun s => .float s.cumulativeUsdcPnl)),
    ("solValues", .arr (samples.map fun s => .float s.cumulativeSolPnl))]

end SwapDesk
