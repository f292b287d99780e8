import SwapDesk.Simulation.Window
import SwapDesk.Random.Uniform
import SwapDesk.Decimal.Round
import SwapDesk.Text.Base58
import SwapDesk.Ledger.Swap

/-! # The simulated ledger

Each swap draws, in order, its day and second, its direction and status, its slippage, its
amounts at a price of the profile's band, and 64 bytes of Base58 signature. The swaps come out
newest first, equal instants in the order drawn; an instant beyond the calendar makes the whole
ledger `none`.
-/

namespace SwapDesk

structure TradeProfile where
  start : Date
  spanDays : UInt32
  referencePrice : Float
  /-- the full width of the price band around the reference price -/
  priceSpread : Float

/-- From 2025-11-14 over 90 days, at 148.32 ± 10. -/
def TradeProfile.default : TradeProfile := ⟨HistoryWindow.default.start, 90, 148.32, 20.0⟩

/-- The statuses a swap draws from: 80% confirmed, 10% pending, 10% failed. -/
def statusTable : List Status :=
  List.replicate 8 .confirmed ++ [.pending, .failed]

def feeRate : Float := 0.001

/-- A uniform element of a non-empty list, with a fallback that is never used. -/
def drawFrom {α : Type} (xs : List α) (fallback : α) : Draw α := do
  match ← MinStd.uniformIndex xs.length with
  | some i => return xs.getD i fallback
  | none => return fallback

/-- Amount in, amount out and fee of a swap in a direction, drawn at a price in the band. -/
def drawAmounts (p : TradeProfile) : Direction → Draw (Float × Float × Float)
  | .solToUsdc => do
    let a ← MinStd.nextFloat
    let amountIn := roundTo (a * 4.0 + 0.5) 3
    let b ← MinStd.nextFloat
    let price := p.referencePrice + (b - 0.5) * p.priceSpread
    return (amountIn, roundTo (amountIn * price) 2, roundTo (amountIn * feeRate) 5)
  | .usdcToSol => do
    let a ← MinStd.nextFloat
    let amountIn := roundTo (a * 600.0 + 50.0) 2
    let b ← MinStd.nextFloat
    let price := p.referencePrice + (b - 0.5) * p.priceSpread
    let amountOut := roundTo (amountIn / price) 3
    return (amountIn, amountOut, roundTo (amountOut * feeRate) 5)

/-- Draws the swap with index `i` (id `i + 1`); `none` if its instant is past the calendar. -/
def drawSwap (p : TradeProfile) (i : Nat) : Draw (Option Swap) := do
  let a ← MinStd.nextFloat
  -- a conversion to a word truncates, which for these non-negative products is the floor
  let dayOffset := (a * Float.ofNat p.spanDays.toNat).toUInt64.toNat
  let b ← MinStd.nextFloat
  let second := (b * 86400.0).toUInt64.toNat
  let time : Instant := ⟨(p.start.day + dayOffset) * 86400 + second, 0⟩
  let direction ← drawFrom Direction.all .solToUsdc
  let status ← drawFrom statusTable .confirmed
  let c ← MinStd.nextFloat
  let slippage := 5 + (c * 30.0).toUInt32
  let (amountIn, amountOut, fee) ← drawAmounts p direction
  let bytes ← MinStd.fillBytes 64
  if time.inRange then
    return some ⟨i.toUInt32 + 1, time, direction, amountIn, amountOut, slippage, fee, status,
      base58 bytes⟩
  else return none

def drawSwaps (p : TradeProfile) : Nat → Nat → Draw (Option (List Swap))
  | 0, _ => pure (some [])
  | n + 1, i => do
    match ← drawSwap p i with
    | none => return none
    | some s => return (← drawSwaps p n (i + 1)).map (s :: ·)

/-- `count` swaps over a profile, newest first and stable on equal instants. -/
def generateSwaps (p : TradeProfile) (count : Nat) : Draw (Option (List Swap)) := do
  let swaps ← drawSwaps p count 0
  return swaps.map fun l => l.mergeSort fun a b => Instant.cmp b.time a.time != .gt

end SwapDesk
