import Mathlib
import SwapDesk.Proofs.Arithmetic
import SwapDesk.Proofs.Trades
import SwapDesk.Dashboard.Basic

/-! # The amounts of the simulated ledger

An accepted price band keeps every drawn price of positive sign (`positiveSign_price`), and the
products, quotients and roundings an amount goes through keep that sign, so every swap of an
accepted dashboard records a finite amount in within its direction's bounds and an amount out
and a fee that are at least zero (`ofConfig_amounts_bounded`). Nothing stronger holds: proceeds
can round to zero (`tinyPrice_zero_proceeds`).
-/

namespace SwapDesk

open MinStd Binary64

/-! ## Draws and prices -/

theorem value_mem_of_isDraw {r : Float} (draw : IsDraw r) :
    r.isFinite = true ∧ 0 ≤ value r ∧ value r < 1 := by
  rcases draw with zero | ⟨M, a, pos, unpacked, -, -, -, gap⟩
  · refine ⟨by change r.toModel.unpack.isFinite = true; rw [zero]; rfl, ?_, ?_⟩ <;>
      simp [value, zero, toRat]
  · refine ⟨by change r.toModel.unpack.isFinite = true; rw [unpacked]; rfl, ?_, ?_⟩
    · rw [value_eq_of_unpack unpacked]
      exact le_of_lt (mul_pos (by exact_mod_cast pos) (two_zpow_pos _))
    · -- `M · 2^32 ≤ 2^a · (2^32 - 1)` puts the mantissa below `2^a`
      have below : M < 2 ^ a := by
        by_contra above
        have : 2 ^ a * 2 ^ 32 ≤ M * 2 ^ 32 := Nat.mul_le_mul_right _ (by omega)
        have : 2 ^ a * (2 ^ 32 - 1) < 2 ^ a * 2 ^ 32 :=
          Nat.mul_lt_mul_of_pos_left (by norm_num) (Nat.two_pow_pos a)
        omega
      rw [value_eq_of_unpack unpacked]
      show (M : ℚ) * 2 ^ (-(a : ℤ)) < 1
      rw [zpow_neg, zpow_natCast, ← div_eq_mul_inv, div_lt_one (by positivity)]
      exact_mod_cast below

/-- What an accepted band says of its two doubles: the reference price is a positive finite
double, and the spread a finite double in `[0, 2 · price)`. -/
theorem checkPriceBand_ok {price spread : Float} (accepted : checkPriceBand price spread = .ok ()) :
    price.isFinite = true ∧ spread.isFinite = true ∧ 0 < value price ∧ 0 ≤ value spread ∧
      value spread < 2 * value price := by
  unfold checkPriceBand at accepted
  split at accepted
  · cases accepted
  rename_i priceOk
  split at accepted
  · cases accepted
  rename_i spreadOk
  simp only [Bool.or_eq_true, Bool.not_eq_true', decide_eq_true_eq, not_or, Bool.not_eq_false]
    at priceOk spreadOk
  obtain ⟨priceFinite, notNonpos⟩ := priceOk
  obtain ⟨⟨spreadFinite, notNegative⟩, notWide⟩ := spreadOk
  have zero : (0.0 : Float).isFinite = true ∧ value 0.0 = 0 := by decide +kernel
  have two : (2.0 : Float).isFinite = true ∧ value 2.0 = 2 := by decide +kernel
  have positive : 0 < value price := by
    rw [le_iff_toRat_le priceFinite zero.1] at notNonpos
    have := zero.2
    simp only [value] at this ⊢
    linarith
  have nonneg : 0 ≤ value spread := by
    rw [lt_iff_toRat_lt spreadFinite zero.1] at notNegative
    have := zero.2
    simp only [value] at this ⊢
    linarith
  refine ⟨priceFinite, spreadFinite, positive, nonneg, ?_⟩
  -- were the spread at least twice the price, the rounded double would be at most the spread
  by_contra wide
  have rounded := rounds_mul two.1 priceFinite
  rw [two.2] at rounded
  exact notWide ((rounded spread spreadFinite).2 (by linarith))

/-- **Prices keep their sign.** A price drawn from an accepted band, `price + (b - 0.5) · spread`
for a draw `b`, is `+0`, positive or `+∞`: the offset `(b - 0.5) · spread` rounds to at most half
the spread in magnitude, which is below the price, and a sum that cancels is `+0`. -/
theorem positiveSign_price {price spread b : Float}
    (accepted : checkPriceBand price spread = .ok ()) (draw : IsDraw b) : PositiveSign (price + (b - 0.5) * spread).toModel.unpack := by
  obtain ⟨priceFinite, spreadFinite, positive, nonneg, narrow⟩ := checkPriceBand_ok accepted
  obtain ⟨bFinite, bNonneg, bBelow⟩ := value_mem_of_isDraw draw
  have half : (0.5 : Float).isFinite = true ∧ (-0.5 : Float).isFinite = true ∧
      value 0.5 = 1 / 2 ∧ value (-0.5) = -1 / 2 := by decide +kernel
  obtain ⟨halfFinite, minusFinite, halfValue, minusValue⟩ := half
  -- the offset factor `b - 0.5` stays within `[-1/2, 1/2]`
  obtain ⟨offsetFinite, offsetLow, offsetHigh⟩ :=
    (rounds_sub bFinite halfFinite).mem minusFinite halfFinite
      (by rw [halfValue, minusValue]; linarith) (by rw [halfValue]; linarith)
  rw [halfValue, minusValue] at *
  -- so the offset stays within the price either way
  obtain ⟨shiftFinite, shiftLow, -⟩ :=
    (rounds_mul offsetFinite spreadFinite).mem (isFinite_neg priceFinite) priceFinite
      (by rw [value_neg priceFinite]; nlinarith) (by nlinarith)
  rw [value_neg priceFinite] at shiftLow
  exact positiveSign_add (exists_finite_positive priceFinite positive) shiftFinite (by linarith)

/-! ## Amounts in -/

/-- **Amounts in.** An amount drawn as `a · width + base` for a draw `a` and kept to `d` places
lies between `base` and `top = base + width`, when their multiples by `10^d` are whole doubles. -/
theorem drawnAmount_mem {a width base top baseScaled topScaled : Float} {d : ℤ} (draw : IsDraw a)
    (widthFinite : width.isFinite = true) (baseFinite : base.isFinite = true)
    (topFinite : top.isFinite = true) (baseScaledFinite : baseScaled.isFinite = true)
    (topScaledFinite : topScaled.isFinite = true) (factorFinite : (powi 10.0 d).isFinite = true)
    (widthNonneg : 0 ≤ value width) (topEq : value top = value base + value width)
    (factorPos : 0 < value (powi 10.0 d))
    (baseScaledEq : value baseScaled = value base * value (powi 10.0 d))
    (topScaledEq : value topScaled = value top * value (powi 10.0 d))
    (baseWhole : ∃ k : ℤ, value baseScaled = k) (topWhole : ∃ k : ℤ, value topScaled = k) :
    (roundTo (a * width + base) d).isFinite = true ∧ base ≤ roundTo (a * width + base) d ∧
      roundTo (a * width + base) d ≤ top := by
  obtain ⟨aFinite, aNonneg, aBelow⟩ := value_mem_of_isDraw draw
  have zero : (0.0 : Float).isFinite = true ∧ value 0.0 = 0 := by decide +kernel
  -- the scaled draw lies in `[0, width]`, and the amount in `[base, top]`
  obtain ⟨scaledFinite, scaledLow, scaledHigh⟩ :=
    (rounds_mul aFinite widthFinite).mem zero.1 widthFinite (by rw [zero.2]; positivity)
      (by nlinarith)
  rw [zero.2] at scaledLow
  obtain ⟨amountFinite, amountLow, amountHigh⟩ :=
    (rounds_add scaledFinite baseFinite).mem baseFinite topFinite (by linarith) (by linarith)
  obtain ⟨finite, low, high⟩ := roundTo_mem amountFinite factorFinite factorPos baseFinite
    topFinite baseScaledFinite topScaledFinite baseScaledEq topScaledEq baseWhole topWhole
    amountLow amountHigh
  exact ⟨finite, (le_iff_toRat_le baseFinite finite).mpr low,
    (le_iff_toRat_le finite topFinite).mpr high⟩

theorem saleAmount_mem {a : Float} (draw : IsDraw a) :
    (roundTo (a * 4.0 + 0.5) 3).isFinite = true ∧ 0.5 ≤ roundTo (a * 4.0 + 0.5) 3 ∧
      roundTo (a * 4.0 + 0.5) 3 ≤ 4.5 := by
  have constants : value (4.0 : Float) = 4 ∧ value (0.5 : Float) = 1 / 2 ∧
      value (4.5 : Float) = 9 / 2 ∧ value (powi 10.0 3) = 1000 ∧ value (500.0 : Float) = 500 ∧
      value (4500.0 : Float) = 4500 := by decide +kernel
  obtain ⟨width, base, top, factor, baseScaled, topScaled⟩ := constants
  exact @drawnAmount_mem a 4.0 0.5 4.5 500.0 4500.0 3 draw (by decide +kernel)
    (by decide +kernel) (by decide +kernel) (by decide +kernel) (by decide +kernel)
    (by decide +kernel) (by rw [width]; norm_num) (by rw [top, base, width]; norm_num)
    (by rw [factor]; norm_num) (by rw [baseScaled, base, factor]; norm_num)
    (by rw [topScaled, top, factor]; norm_num) ⟨500, by rw [baseScaled]; norm_num⟩
    ⟨4500, by rw [topScaled]; norm_num⟩

theorem purchaseAmount_mem {a : Float} (draw : IsDraw a) :
    (roundTo (a * 600.0 + 50.0) 2).isFinite = true ∧ 50.0 ≤ roundTo (a * 600.0 + 50.0) 2 ∧
      roundTo (a * 600.0 + 50.0) 2 ≤ 650.0 := by
  have constants : value (600.0 : Float) = 600 ∧ value (50.0 : Float) = 50 ∧
      value (650.0 : Float) = 650 ∧ value (powi 10.0 2) = 100 ∧
      value (5000.0 : Float) = 5000 ∧ value (65000.0 : Float) = 65000 := by decide +kernel
  obtain ⟨width, base, top, factor, baseScaled, topScaled⟩ := constants
  exact @drawnAmount_mem a 600.0 50.0 650.0 5000.0 65000.0 2 draw (by decide +kernel)
    (by decide +kernel) (by decide +kernel) (by decide +kernel) (by decide +kernel)
    (by decide +kernel) (by rw [width]; norm_num) (by rw [top, base, width]; norm_num)
    (by rw [factor]; norm_num) (by rw [baseScaled, base, factor]; norm_num)
    (by rw [topScaled, top, factor]; norm_num) ⟨5000, by rw [baseScaled]; norm_num⟩
    ⟨65000, by rw [topScaled]; norm_num⟩
/-! ## The amounts of one swap -/

/-- The least and the greatest amount in of a direction: `0.5 … 4.5` SOL sold, or `50 … 650`
USDC spent. -/
def Direction.amountInBounds : Direction → Float × Float
  | .solToUsdc => (0.5, 4.5)
  | .usdcToSol => (50.0, 650.0)

/-- Amount in, amount out and fee as a price band the settings accept draws them: the amount in
is finite and within its direction's bounds, the amount out and the fee are at least zero. -/
structure AmountsBounded (direction : Direction) (amounts : Float × Float × Float) : Prop where
  finite : amounts.1.isFinite = true
  atLeast : direction.amountInBounds.1 ≤ amounts.1
  atMost : amounts.1 ≤ direction.amountInBounds.2
  outNonneg : 0 ≤ amounts.2.1
  feeNonneg : 0 ≤ amounts.2.2

theorem AmountsBounded.amountIn_pos {direction : Direction} {amounts : Float × Float × Float}
    (bounded : AmountsBounded direction amounts) : 0 < amounts.1 := by
  have least : (0.0 : Float).isFinite = true ∧ direction.amountInBounds.1.isFinite = true ∧
      0.0 < direction.amountInBounds.1 := by
    cases direction <;> decide +kernel
  obtain ⟨zero, leastFinite, leastPos⟩ := least
  rw [lt_iff_toRat_lt zero leastFinite] at leastPos
  have above := (le_iff_toRat_le leastFinite bounded.finite).mp bounded.atLeast
  exact (lt_iff_toRat_lt zero bounded.finite).mpr (lt_of_lt_of_le leastPos above)

/-- **Amounts of one swap.** From a price band the settings accept, the amounts drawn in
either direction are bounded: every price of the band is positive or zero, and products,
quotients and roundings keep that sign. -/
theorem drawAmounts_bounded {p : TradeProfile}
    (accepted : checkPriceBand p.referencePrice p.priceSpread = .ok ()) (direction : Direction)
    (g : MinStd) : AmountsBounded direction ((drawAmounts p direction).run g).1 := by
  have a := isDraw_unit (step_state_lt g)
  have price := positiveSign_price accepted (isDraw_unit (step_state_lt (step g)))
  -- the scales of two, three and five places, the fee rate and the least amounts in
  have constants : (powi 10.0 2).isFinite = true ∧ 0 < value (powi 10.0 2) ∧
      (powi 10.0 3).isFinite = true ∧ 0 < value (powi 10.0 3) ∧
      (powi 10.0 5).isFinite = true ∧ 0 < value (powi 10.0 5) ∧
      feeRate.isFinite = true ∧ 0 < value feeRate ∧
      (0.5 : Float).isFinite = true ∧ 0 < value 0.5 ∧
      (50.0 : Float).isFinite = true ∧ 0 < value 50.0 := by
    decide +kernel
  obtain ⟨f2, p2, f3, p3, f5, p5, fr, pr, halfFinite, halfPos, fiftyFinite, fiftyPos⟩ :=
    constants
  have hundred := exists_finite_positive f2 p2
  have thousand := exists_finite_positive f3 p3
  have hundredThousand := exists_finite_positive f5 p5
  have fee := exists_finite_positive fr pr
  cases direction with
  | solToUsdc =>
    obtain ⟨finite, low, high⟩ := saleAmount_mem a
    have positive := exists_finite_positive_of_le halfFinite finite halfPos low
    simp only [drawAmounts, run_bind, nextFloat_run]
    exact ⟨finite, low, high,
      zero_le_of_positiveSign (positiveSign_roundTo (positiveSign_mul_of_positive positive price)
        hundred),
      zero_le_of_positiveSign (positiveSign_roundTo
        (positiveSign_mul (positiveSign_of_positive positive) fee) hundredThousand)⟩
  | usdcToSol =>
    obtain ⟨finite, low, high⟩ := purchaseAmount_mem a
    have positive := exists_finite_positive_of_le fiftyFinite finite fiftyPos low
    have out := positiveSign_roundTo (positiveSign_div_of_positive positive price) thousand
    simp only [drawAmounts, run_bind, nextFloat_run]
    exact ⟨finite, low, high, zero_le_of_positiveSign out,
      zero_le_of_positiveSign (positiveSign_roundTo (positiveSign_mul out fee) hundredThousand)⟩

def Swap.amounts (s : Swap) : Float × Float × Float := (s.amountIn, s.amountOut, s.fee)

/-- **Step lemma.** A swap that is drawn records amounts drawn in its direction. -/
theorem drawSwap_amounts {p : TradeProfile}
    (accepted : checkPriceBand p.referencePrice p.priceSpread = .ok ()) {i : Nat} {g : MinStd}
    {s : Swap} (drawn : ((drawSwap p i).run g).1 = some s) :
    AmountsBounded s.direction s.amounts := by
  simp only [drawSwap, run_bind, nextFloat_run] at drawn
  -- the amounts are drawn in the direction drawn, from whatever state the status leaves
  generalize (StateT.run (drawFrom statusTable Status.confirmed)
    (StateT.run (drawFrom Direction.all Direction.solToUsdc) g.step.step).2).2.step = g' at drawn
  generalize (StateT.run (drawFrom Direction.all Direction.solToUsdc) g.step.step).1 = direction
    at drawn
  have bounded := drawAmounts_bounded accepted direction g'
  generalize (drawAmounts p direction).run g' = result at drawn bounded
  split_ifs at drawn with onCalendar
  · simp only [onCalendar, if_true] at drawn
    injection drawn with drawn
    subst drawn
    exact bounded
  · simp only [onCalendar, Bool.false_eq_true, if_false] at drawn
    cases drawn

/-! ## The ledger of a dashboard -/

/-- **Run lemma.** A property every drawn swap has holds of every swap of a run. -/
theorem drawSwaps_forall {p : TradeProfile} (P : Swap → Prop)
    (step : ∀ i g s, ((drawSwap p i).run g).1 = some s → P s) :
    ∀ n i g swaps, ((drawSwaps p n i).run g).1 = some swaps → ∀ s ∈ swaps, P s
  | 0, _, _, swaps, drawn => by
    cases drawn
    exact fun _ none => absurd none List.not_mem_nil
  | n + 1, i, g, swaps, drawn => by
    simp only [drawSwaps, run_bind] at drawn
    cases first : ((drawSwap p i).run g).1 with
    | none =>
      rw [first] at drawn
      cases drawn
    | some s =>
      -- the first swap, then the rest of the run from the state it leaves
      simp only [first, run_bind] at drawn
      cases rest : ((drawSwaps p n (i + 1)).run ((drawSwap p i).run g).2).1 with
      | none =>
        rw [rest] at drawn
        cases drawn
      | some later =>
        rw [rest] at drawn
        cases drawn
        intro t mem
        rcases List.mem_cons.mp mem with rfl | after
        · exact step i g t first
        · exact drawSwaps_forall P step n (i + 1) _ later rest t after

theorem generateSwaps_forall {p : TradeProfile} (P : Swap → Prop)
    (step : ∀ i g s, ((drawSwap p i).run g).1 = some s → P s) {count : Nat} {g : MinStd}
    {swaps : List Swap} (generated : ((generateSwaps p count).run g).1 = some swaps) :
    ∀ s ∈ swaps, P s := by
  rw [generateSwaps_run] at generated
  cases drawn : ((drawSwaps p count 0).run g).1 with
  | none =>
    rw [drawn] at generated
    cases generated
  | some unsorted =>
    rw [drawn] at generated
    cases generated
    intro s mem
    exact drawSwaps_forall P step count 0 g unsorted drawn s (List.mem_mergeSort.mp mem)

theorem ofConfig_ledger {c : Config} {d : Dashboard} (built : Dashboard.ofConfig c = .ok d) :
    checkPriceBand c.generator.referencePrice c.generator.priceSpread = .ok () ∧
      ∃ g, ((generateSwaps c.profile c.generator.transactionCount).run g).1 =
        some d.ledger.swaps := by
  unfold Dashboard.ofConfig at built
  simp only [bind, Except.bind, pure, Except.pure, throw, throwThe, MonadExceptOf.throw] at built
  split at built
  · cases built
  split at built
  · cases built
  rename_i band
  refine ⟨band, ?_⟩
  -- the seeds and the history only decide whether a dashboard is built at all
  repeat' split at built
  all_goals try cases built
  rename_i drawn
  exact ⟨_, drawn⟩

/-- **Amounts of an accepted dashboard.** Every swap records a finite positive amount in, within
its direction's bounds, and an amount out and a fee of at least zero (`AmountsBounded`). -/
theorem ofConfig_amounts_bounded {c : Config} {d : Dashboard}
    (built : Dashboard.ofConfig c = .ok d) :
    ∀ s ∈ d.ledger.swaps, AmountsBounded s.direction s.amounts ∧ 0 < s.amountIn := by
  obtain ⟨accepted, g, generated⟩ := ofConfig_ledger built
  -- the profile draws its prices from the configured band
  have band : checkPriceBand c.profile.referencePrice c.profile.priceSpread = .ok () := accepted
  intro s mem
  have bounded : AmountsBounded s.direction s.amounts :=
    generateSwaps_forall (fun s => AmountsBounded s.direction s.amounts)
      (fun _ _ _ drawn => drawSwap_amounts band drawn) generated s mem
  exact ⟨bounded, bounded.amountIn_pos⟩

/-- The default settings, drawing one swap, build a dashboard whose swap is bounded. -/
theorem oneSwap_amounts_bounded :
    let settings : Config := { generator := { transactionCount := 1 } }
    ∃ d, Dashboard.ofConfig settings = .ok d ∧
      ∀ s ∈ d.ledger.swaps, AmountsBounded s.direction s.amounts ∧ 0 < s.amountIn := by
  intro settings
  have computed : (Dashboard.ofConfig settings).toOption.isSome = true := by decide +kernel
  cases built : Dashboard.ofConfig settings with
  | error e =>
    rw [built] at computed
    cases computed
  | ok d => exact ⟨d, rfl, ofConfig_amounts_bounded built⟩

/-- With a reference price of `0.001` and no spread the settings are accepted, yet the one swap
drawn sells SOL for proceeds that round to zero. -/
theorem tinyPrice_zero_proceeds :
    let settings : Config :=
      { generator := { referencePrice := 0.001, priceSpread := 0.0, transactionCount := 1 } }
    ∃ d, Dashboard.ofConfig settings = .ok d ∧ ∃ s ∈ d.ledger.swaps, ¬ 0 < s.amountOut := by
  intro settings
  have computed : ((Dashboard.ofConfig settings).toOption.map fun d =>
      d.ledger.swaps.map fun s => decide (0 < s.amountOut)) = some [false] := by
    decide +kernel
  cases accepted : Dashboard.ofConfig settings with
  | error e =>
    rw [accepted] at computed
    contradiction
  | ok d =>
    rw [accepted] at computed
    obtain ⟨s, single, notPositive⟩ := List.map_eq_singleton_iff.mp (Option.some.inj computed)
    exact ⟨d, rfl, s, by rw [single]; exact List.mem_singleton_self s,
      of_decide_eq_false notPositive⟩


end SwapDesk
