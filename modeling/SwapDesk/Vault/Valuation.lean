import SwapDesk.Simulation.History
import SwapDesk.Json.Basic

/-! # Valuing the vault

The figures of the dashboard header: vault values, the allocation between the two vaults, the
health of the fee reserve and the all-time result of each leg.
-/

namespace SwapDesk

structure Vault where
  balance : Float
  usdPrice : Float

def usdValue (balance price : Float) : Float := balance * price

def Vault.value (v : Vault) : Float := usdValue v.balance v.usdPrice

def totalValue (sol usdc : Vault) : Float := sol.value + usdc.value

structure Allocation where
  solPct : Float
  usdcPct : Float

/-- Each vault's share of the total value; zero for both when the total is not positive. -/
def allocation (sol usdc : Vault) : Allocation :=
  let total := totalValue sol usdc
  if total ≤ 0.0 then ⟨0.0, 0.0⟩
  else ⟨sol.value / total * 100.0, usdc.value / total * 100.0⟩

inductive Health where
  | healthy
  | low
  | critical
  deriving DecidableEq, Repr

def Health.name : Health → String
  | .healthy => "healthy"
  | .low => "low"
  | .critical => "critical"

def Health.label : Health → String
  | .healthy => "Healthy"
  | .low => "Low"
  | .critical => "Critical"

structure FeePool where
  balance : Float
  minThreshold : Float
  targetThreshold : Float

namespace FeePool

/-- Healthy at or above the target, low at or above the minimum, critical below. -/
def health (p : FeePool) : Health :=
  if p.balance ≥ p.targetThreshold then .healthy
  else if p.balance ≥ p.minThreshold then .low
  else .critical

/-- The balance as a percentage of the target, at most 100; 100 without a positive target. -/
def fillPct (p : FeePool) : Float :=
  if p.targetThreshold ≤ 0.0 then 100.0
  else
    let pct := p.balance / p.targetThreshold * 100.0
    -- the smaller of the two, and 100 when the percentage is NaN
    if pct < 100.0 then pct else 100.0

/-- Where the minimum sits on the fill bar, in percent of the target; 0 without a positive
target. -/
def minMarkerPct (p : FeePool) : Float :=
  if p.targetThreshold ≤ 0.0 then 0.0 else p.minThreshold / p.targetThreshold * 100.0

end FeePool

/-- The all-time result of each leg and its return on the starting capital. -/
structure PnlSummary where
  allTimePnl : Float
  allTimeSolPnl : Float
  allTimeUsdcPnl : Float
  solReturnPct : Float
  usdcReturnPct : Float

/-- A profit in percent of a capital; zero for a zero capital. -/
def returnPct (profit base : Float) : Float :=
  if base == 0.0 then 0.0 else profit / base * 100.0

/-- The summary of a history: the cumulative figures of its last day, or zeros. -/
def pnlSummary (history : List DaySample) (solBase usdcBase : Float) : PnlSummary :=
  let (total, sol, usdc) := match history.getLast? with
    | some s => (s.cumulativePnl, s.cumulativeSolPnl, s.cumulativeUsdcPnl)
    | none => (0.0, 0.0, 0.0)
  ⟨total, sol, usdc, returnPct sol solBase, returnPct usdc usdcBase⟩

structure Snapshot where
  sol : Vault
  usdc : Vault
  feePool : FeePool
  pnl : PnlSummary

namespace Snapshot

def feePoolUsd (s : Snapshot) : Float := usdValue s.feePool.balance s.sol.usdPrice

def toJson (s : Snapshot) : Json :=
  let a := allocation s.sol s.usdc
  .obj [("sol", .obj [("balance", .float s.sol.balance), ("usdPrice", .float s.sol.usdPrice)]),
    ("usdc", .obj [("balance", .float s.usdc.balance), ("usdPrice", .float s.usdc.usdPrice)]),
    ("feePool", .obj [("balance", .float s.feePool.balance),
      ("minThreshold", .float s.feePool.minThreshold),
      ("targetThreshold", .float s.feePool.targetThreshold)]),
    ("feePoolHealth", .str s.feePool.health.name),
    ("feePoolUsd", .float s.feePoolUsd),
    ("totalValueUsd", .float (totalValue s.sol s.usdc)),
    ("allocation", .obj [("solPct", .float a.solPct), ("usdcPct", .float a.usdcPct)]),
    ("pnl", .obj [("allTimePnl", .float s.pnl.allTimePnl), ("allTimeSolPnl", .float s.pnl.allTimeSolPnl),
      ("allTimeUsdcPnl", .float s.pnl.allTimeUsdcPnl), ("solReturnPct", .float s.pnl.solReturnPct),
      ("usdcReturnPct", .float s.pnl.usdcReturnPct)])]

end Snapshot

end SwapDesk
