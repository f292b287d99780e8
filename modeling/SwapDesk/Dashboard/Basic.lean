import SwapDesk.Dashboard.Error
import SwapDesk.Config.Basic
import SwapDesk.Ledger.QueryForm
import SwapDesk.Ledger.Page
import SwapDesk.Ledger.Csv
import SwapDesk.Ledger.Book
import SwapDesk.Simulation.History
import SwapDesk.Analytics.Volume

/-! # The dashboard

The settings and the two simulated series, the PnL history and the ledger, each drawn from its own
seed after the settings are checked. Every request reads these series.
-/

namespace SwapDesk

structure Dashboard where
  config : Config
  history : List DaySample
  ledger : Ledger

def seeded (seed : UInt64) : Except DeskError MinStd :=
  match MinStd.ofSeed? seed with
  | some g => .ok g
  | none => .error (.simulation (.degenerateSeed seed))

namespace Dashboard

/-- Checks the settings and draws the history and the ledger. -/
def ofConfig (c : Config) : Except DeskError Dashboard := do
  if c.ledger.pageSize = 0 then throw (.settings .pageSizeZero)
  match checkPriceBand c.generator.referencePrice c.generator.priceSpread with
  | .error p => throw (.settings p)
  | .ok () => pure ()
  let historyDraws ← seeded c.generator.seed
  let history ← match generateHistory c.window historyDraws with
    | .ok (h, _) => pure h
    | .error e => throw (.simulation e)
  let ledgerDraws ← seeded c.generator.transactionSeed
  match ((generateSwaps c.profile c.generator.transactionCount).run ledgerDraws).1 with
  | none => throw .calendarOverflow
  | some swaps => return ⟨c, history, ⟨swaps⟩⟩

/-- A query from a form, the page size defaulting to the configured one. -/
def pageQuery (d : Dashboard) (f : QueryForm) : Except DeskError Query :=
  let f := { f with pageSize := f.pageSize <|> some d.config.ledger.pageSize }
  f.toQuery.mapError .query

def query (f : QueryForm) : Except DeskError Query :=
  f.toQuery.mapError .query

def matching (d : Dashboard) (q : Query) : List Swap := q.run d.ledger.swaps

def page (d : Dashboard) (q : Query) : Page Swap :=
  paginate (d.matching q) q.page q.pageSize

/-- The CSV of every matching swap, whatever page the query names. -/
def exportCsv (d : Dashboard) (q : Query) : String := swapsCsv (d.matching q)

def exportName (d : Dashboard) (day : Date) : String :=
  exportFileName d.config.ledger.exportStem day

/-- Weekly volume over `days` (by default the configured window) up to the as-of date. -/
def volume (d : Dashboard) (days : Option UInt32) : Except DeskError (List WeekVolume) :=
  let days := days.getD d.config.analytics.volumeWindowDays
  match weeklyVolume d.ledger.swaps days.toNat d.config.asOfInstant with
  | some weeks => .ok weeks
  | none => .error .calendarOverflow

def configuredRange (d : Dashboard) : Except DeskError PnlRange :=
  let t := d.config.analytics.pnlRange
  (PnlRange.parse t).mapError fun e => .settings (.pnlRange t e)

/-- A PnL range from its text, or the configured one when none is given. -/
def range (d : Dashboard) : Option String → Except DeskError PnlRange
  | some t => (PnlRange.parse t).mapError .query
  | none => d.configuredRange

def pnl (d : Dashboard) (r : PnlRange) : List DaySample := r.slice d.history

/-- The portfolio at the configured prices, or with the SOL vault at another price. -/
def snapshot (d : Dashboard) (solPrice : Option Float) : Except DeskError Snapshot := do
  let (sol, usdc) := d.config.vaults
  let sol : Vault ← match solPrice with
    | some p => do
      let p ← positiveAmount p
      pure { sol with usdPrice := p }
    | none => pure sol
  let h := d.config.holdings
  return ⟨sol, usdc, d.config.feePool, pnlSummary d.history h.solBase h.usdcBase⟩

end Dashboard

end SwapDesk
