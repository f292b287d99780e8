import SwapDesk.Simulation.Trades
import SwapDesk.Vault.Valuation
import SwapDesk.Analytics.PnlRange

/-! # Settings of the dashboard

The four sections of the settings file, every key with a default, and the values read off them:
the history window, the trade profile, the vaults, the fee pool and the as-of instant.
-/

namespace SwapDesk

/-- The `generator` section. -/
structure GeneratorSettings where
  seed : UInt64 := 42
  transactionSeed : UInt64 := 7
  transactionCount : Nat := 55
  historyStart : Date := HistoryWindow.default.start
  phase2Start : Date := HistoryWindow.default.phase2
  phase3Start : Date := HistoryWindow.default.phase3
  historyEnd : Date := HistoryWindow.default.finish
  referencePrice : Float := 148.32
  priceSpread : Float := 20.0

/-- The `ledger` section. -/
structure LedgerSettings where
  pageSize : Nat := 25
  exportStem : String := "solswap"

/-- The `analytics` section. -/
structure AnalyticsSettings where
  volumeWindowDays : UInt32 := 30
  asOf : Date := HistoryWindow.default.finish
  pnlRange : String := PnlRange.default.text

/-- The `portfolio` section: balances, prices, the fee reserve and starting capital. -/
structure HoldingSettings where
  solBalance : Float := 24.5
  usdcBalance : Float := 3842.5
  solPrice : Float := 148.32
  feePoolBalance : Float := 0.085
  feePoolMin : Float := 0.05
  feePoolTarget : Float := 0.15
  solBase : Float := 5.0
  usdcBase : Float := 1200.0

structure Config where
  generator : GeneratorSettings := {}
  ledger : LedgerSettings := {}
  analytics : AnalyticsSettings := {}
  holdings : HoldingSettings := {}

namespace Config

def window (c : Config) : HistoryWindow :=
  ⟨c.generator.historyStart, c.generator.phase2Start, c.generator.phase3Start,
    c.generator.historyEnd⟩

/-- The trade profile over the days of the history: one more day than the window's span,
at least one, counted in 32 bits. -/
def profile (c : Config) : TradeProfile :=
  let span := max (c.window.totalDays + 1) 1
  ⟨c.generator.historyStart, (span.toNat % Nat.pow 2 32).toUInt32, c.generator.referencePrice,
    c.generator.priceSpread⟩

/-- `23:59:59` of the as-of date. -/
def asOfInstant (c : Config) : Instant := Instant.endOfDay c.analytics.asOf

/-- The SOL vault at the configured price and the USDC vault at one dollar. -/
def vaults (c : Config) : Vault × Vault :=
  (⟨c.holdings.solBalance, c.holdings.solPrice⟩, ⟨c.holdings.usdcBalance, 1.0⟩)

def feePool (c : Config) : FeePool :=
  ⟨c.holdings.feePoolBalance, c.holdings.feePoolMin, c.holdings.feePoolTarget⟩

end Config

end SwapDesk
