import Mathlib
import SwapDesk.Simulation.History
import SwapDesk.Proofs.MinStd

/-! # The draws of a simulated history

A history reads three numbers a day, the price jitter and then one per leg, and stays aligned
only because every phase reads exactly two (`Phase.legs_run`). From the step lemma for one day,
day `i` of a run reads draws `3i + 1 … 3i + 3` (`simulateDays_run`).
-/

namespace SwapDesk

namespace MinStd

/-- The `k`-th number drawn from a generator, counting from one: the double of the state
`k` steps on. -/
def draw (g : MinStd) (k : Nat) : Float := (Nat.repeat step k g).unit

theorem nextFloat_run (g : MinStd) : nextFloat.run g = ((step g).unit, step g) := rfl

theorem repeat_step_succ (k : Nat) (g : MinStd) :
    Nat.repeat step (k + 1) g = Nat.repeat step k (step g) := by
  have moved := repeat_step_add k 1 g
  rwa [show Nat.repeat step 1 g = step g from rfl] at moved

theorem draw_step (g : MinStd) (k : Nat) : draw (step g) k = draw g (k + 1) := by
  rw [draw, draw, repeat_step_succ]

/-- The run of a bind. Stated through the library's `StateT.run_bind` rather than by `rfl`,
so that `simp` rewrites with it by a proof instead of leaving the kernel to unfold both sides
of a long program. -/
theorem run_bind {α β : Type} (x : Draw α) (f : α → Draw β) (g : MinStd) :
    (x >>= f).run g = (f (x.run g).1).run (x.run g).2 := by
  rw [StateT.run_bind]
  rfl

theorem draw_repeat (g : MinStd) (j k : Nat) : draw (Nat.repeat step j g) k = draw g (k + j) := by
  rw [draw, draw, repeat_step_add]

/-- After `k ≥ 1` draws the state is the seed state times `16807^k`, modulo `2^31 - 1`. -/
theorem state_repeat (g : MinStd) : ∀ k, 0 < k →
    (Nat.repeat step k g).state = g.state * multiplier ^ k % modulus
  | 1, _ => rfl
  | k + 2, _ => by
    have before := state_repeat g (k + 1) (Nat.succ_pos k)
    show (Nat.repeat step (k + 1) g).state * multiplier % modulus = _
    rw [before, Nat.mod_mul_mod, Nat.mul_assoc, ← pow_succ]

end MinStd

open MinStd

/-! ## One day -/

/-- The two legs of a day, USDC and SOL, from the two numbers drawn for them. -/
def Phase.legsOf (p : Phase) (t : PnlTotals) (a b : Float) : Float × Float :=
  match p with
  | .usdcDominant => ((1200.0 + t.usdc) * ((a * 0.5 + 0.1) / 100.0), (b - 0.45) * 0.002)
  | .balanced =>
    ((1200.0 + t.usdc) * ((a * 0.35 + 0.05) / 100.0), (5.0 + t.sol) * ((b * 0.6 + 0.1) / 100.0))
  | .solDominant => ((a - 0.45) * 0.5, (5.0 + t.sol) * ((b * 1.2 + 0.4) / 100.0))

/-- Every phase reads exactly the next two numbers. -/
theorem Phase.legs_run (p : Phase) (t : PnlTotals) (g : MinStd) :
    (p.legs t).run g = (p.legsOf t (draw g 1) (draw g 2), Nat.repeat step 2 g) := by
  cases p <;> rfl

/-- Day `i` of a window of `total` days, from the running sums before it and its three
numbers: the price jitter and the two legs of the day's phase. Returns the rounded sample
and the new running sums. -/
def dayOfDraws (w : HistoryWindow) (total i : Nat) (t : PnlTotals) (jitter a b : Float) :
    DaySample × PnlTotals :=
  let date : Date := ⟨w.start.day + i⟩
  let progress := if total = 0 then 0.0 else Float.ofNat i / Float.ofNat total
  let price := 95.0 + (148.32 - 95.0) * progress + (jitter - 0.5) * 4.0
  let (usdc, sol) := (w.phaseOf date).legsOf t a b
  let sums : PnlTotals := { sol := t.sol + sol, usdc := t.usdc + usdc, usd := t.usd + (usdc + sol * price) }
  (⟨date, roundTo (usdc + sol * price) 2, roundTo sums.usd 2, roundTo sol 4, roundTo sums.sol 4,
    roundTo usdc 2, roundTo sums.usdc 2, roundTo price 2⟩, sums)

@[simp] theorem dayOfDraws_date (w : HistoryWindow) (total i : Nat) (t : PnlTotals)
    (jitter a b : Float) : (dayOfDraws w total i t jitter a b).1.date = ⟨w.start.day + i⟩ := rfl

/-- **Step lemma.** A day reads three numbers: the price jitter, then the two legs. -/
theorem simulateDay_run (w : HistoryWindow) (total i : Nat) (t : PnlTotals) (g : MinStd) :
    (simulateDay w total i t).run g =
      (dayOfDraws w total i t (draw g 1) (draw g 2) (draw g 3), Nat.repeat step 3 g) := by
  simp only [simulateDay, run_bind, nextFloat_run, Phase.legs_run, draw_step]
  rfl

/-! ## A run of days -/

/-- **Run lemma.** A run of `n` days from day `i` reads `3n` numbers, and its `j`-th sample
is the day `i + j` of draws `3j + 1`, `3j + 2` and `3j + 3`, from the running sums that the
days before it left. -/
theorem simulateDays_run (w : HistoryWindow) (total : Nat) :
    ∀ n i t g, ∃ samples : List DaySample, ∃ totals : Nat → PnlTotals,
      (simulateDays w total n i t).run g = (samples, Nat.repeat step (3 * n) g) ∧
      samples.length = n ∧ totals 0 = t ∧
      ∀ j (inRun : j < samples.length), (samples[j], totals (j + 1)) =
        dayOfDraws w total (i + j) (totals j) (draw g (3 * j + 1)) (draw g (3 * j + 2))
          (draw g (3 * j + 3))
  | 0, _, t, _ => ⟨[], fun _ => t, rfl, rfl, rfl, fun _ inRun => absurd inRun (Nat.not_lt_zero _)⟩
  | n + 1, i, t, g => by
    obtain ⟨rest, totals, run, length, start, days⟩ :=
      simulateDays_run w total n (i + 1)
        (dayOfDraws w total i t (draw g 1) (draw g 2) (draw g 3)).2 (Nat.repeat step 3 g)
    -- the first day, then the rest of the run three draws on
    refine ⟨(dayOfDraws w total i t (draw g 1) (draw g 2) (draw g 3)).1 :: rest,
      fun j => if j = 0 then t else totals (j - 1), ?_, by simp [length], rfl, ?_⟩
    · simp only [simulateDays, run_bind, simulateDay_run]
      rw [run, ← repeat_step_add, show 3 * n + 3 = 3 * (n + 1) by ring]
      rfl
    · intro j inRun
      cases j with
      | zero => simp [start]
      | succ j =>
        have day := days j (by simpa using inRun)
        simp only [draw_repeat] at day
        simp only [List.getElem_cons_succ, Nat.add_one_ne_zero, if_false, Nat.add_sub_cancel]
        -- the rest of the run starts one day and three draws later
        have later : ∀ k, 3 * j + k + 3 = 3 * (j + 1) + k := fun k => by omega
        rw [day, later, later, later, show i + 1 + j = i + (j + 1) by omega]

/-! ## The whole history -/

theorem generateHistory_of_ordered {w : HistoryWindow}
    (ordered : w.start ≤ w.phase2 ∧ w.phase2 ≤ w.phase3 ∧ w.phase3 ≤ w.finish) (g : MinStd) :
    generateHistory w g =
      .ok ((simulateDays w w.totalDays.toNat (w.totalDays.toNat + 1) 0 {}).run g) := by
  have valid : w.validate = .ok w := by
    simp only [HistoryWindow.validate, HistoryWindow.isOrdered, decide_eq_true ordered, if_true]
  simp only [generateHistory, valid]
  rfl

theorem generateHistory_of_not_ordered {w : HistoryWindow}
    (disordered : ¬(w.start ≤ w.phase2 ∧ w.phase2 ≤ w.phase3 ∧ w.phase3 ≤ w.finish)) (g : MinStd) :
    generateHistory w g = .error (.invalidWindow w) := by
  have refused : w.validate = .error (.invalidWindow w) := by
    simp only [HistoryWindow.validate, HistoryWindow.isOrdered, decide_eq_false disordered]
    rfl
  simp only [generateHistory, refused]
  rfl

/-- The days of an ordered window run from its first date to its last. -/
theorem start_add_totalDays {w : HistoryWindow}
    (ordered : w.start ≤ w.phase2 ∧ w.phase2 ≤ w.phase3 ∧ w.phase3 ≤ w.finish) :
    w.start.day + w.totalDays.toNat = w.finish.day := by
  obtain ⟨first, second, third⟩ := ordered
  change w.start.day ≤ w.phase2.day at first
  change w.phase2.day ≤ w.phase3.day at second
  change w.phase3.day ≤ w.finish.day at third
  simp only [HistoryWindow.totalDays]
  omega

theorem pairwise_consecutive_dates (first : Int) (n : Nat) :
    ((List.range n).map fun i : Nat => (⟨first + i⟩ : Date)).Pairwise (· < ·) := by
  rw [List.pairwise_map]
  refine (List.pairwise_lt_range).imp fun {i j} earlier => ?_
  show first + i < first + j
  omega

theorem historyOfSeed_eq (seed : UInt64) :
    historyOfSeed seed =
      if seed.toNat % modulus = 0 then .error (.degenerateSeed seed)
      else (generateHistory HistoryWindow.default ⟨seed.toNat % modulus⟩).map Prod.fst := by
  by_cases degenerate : seed.toNat % modulus = 0
  · simp [historyOfSeed, ofSeed?, degenerate]
    rfl
  · simp only [historyOfSeed, ofSeed?, degenerate, if_false]
    cases generateHistory HistoryWindow.default ⟨seed.toNat % modulus⟩ <;> rfl

theorem default_ordered :
    HistoryWindow.default.start ≤ HistoryWindow.default.phase2 ∧
      HistoryWindow.default.phase2 ≤ HistoryWindow.default.phase3 ∧
      HistoryWindow.default.phase3 ≤ HistoryWindow.default.finish := by
  decide

/-- **The history a window gives.** One sample per date of an ordered window, sample `i` from
draws `3i + 1 … 3i + 3` and the sums before it, the generator left `3(n + 1)` steps on; a window
out of order is refused before any draw, and a seed's history uses the default window. -/
theorem generateHistory_spec (w : HistoryWindow) (g : MinStd) (seed : UInt64) :
    (¬(w.start ≤ w.phase2 ∧ w.phase2 ≤ w.phase3 ∧ w.phase3 ≤ w.finish) →
      generateHistory w g = .error (.invalidWindow w)) ∧
    ((w.start ≤ w.phase2 ∧ w.phase2 ≤ w.phase3 ∧ w.phase3 ≤ w.finish) →
      ∃ samples : List DaySample, ∃ totals : Nat → PnlTotals,
        generateHistory w g = .ok (samples, Nat.repeat step (3 * (w.totalDays.toNat + 1)) g) ∧
        (Nat.repeat step (3 * (w.totalDays.toNat + 1)) g).state =
          g.state * 16807 ^ (3 * (w.totalDays.toNat + 1)) % (2 ^ 31 - 1) ∧
        samples.length = w.totalDays.toNat + 1 ∧
        samples.map DaySample.date =
          (List.range (w.totalDays.toNat + 1)).map (fun i : Nat => ⟨w.start.day + i⟩) ∧
        w.start.day + w.totalDays.toNat = w.finish.day ∧
        (samples.map DaySample.date).Pairwise (· < ·) ∧
        totals 0 = {} ∧
        ∀ i (day : i < samples.length), (samples[i], totals (i + 1)) =
          dayOfDraws w w.totalDays.toNat i (totals i) (draw g (3 * i + 1)) (draw g (3 * i + 2))
            (draw g (3 * i + 3))) ∧
    historyOfSeed seed =
      (if seed.toNat % modulus = 0 then .error (.degenerateSeed seed)
      else (generateHistory HistoryWindow.default ⟨seed.toNat % modulus⟩).map Prod.fst) ∧
    (HistoryWindow.default.start ≤ HistoryWindow.default.phase2 ∧
      HistoryWindow.default.phase2 ≤ HistoryWindow.default.phase3 ∧
      HistoryWindow.default.phase3 ≤ HistoryWindow.default.finish) := by
  refine ⟨fun disordered => generateHistory_of_not_ordered disordered g, fun ordered => ?_,
    historyOfSeed_eq seed, default_ordered⟩
  obtain ⟨samples, totals, run, length, start, days⟩ :=
    simulateDays_run w w.totalDays.toNat (w.totalDays.toNat + 1) 0 {} g
  have dates : samples.map DaySample.date =
      (List.range (w.totalDays.toNat + 1)).map (fun i : Nat => ⟨w.start.day + i⟩) := by
    apply List.ext_getElem (by simp [length])
    intro i inSamples _
    have day := congrArg (fun p => p.1.date) (days i (by simpa using inSamples))
    simp only [dayOfDraws_date, Nat.zero_add] at day
    simp [day]
  refine ⟨samples, totals, ?_, state_repeat g _ (by omega), length, dates,
    start_add_totalDays ordered, dates ▸ pairwise_consecutive_dates _ _, start, ?_⟩
  · rw [generateHistory_of_ordered ordered, run]
  · intro i day
    simpa using days i day

/-- The default window, 2025-11-14 to 2026-02-11, drawn from state 42: ninety samples, and
the generator 270 steps on. -/
theorem default_history_draws :
    (HistoryWindow.default.start ≤ HistoryWindow.default.phase2 ∧
      HistoryWindow.default.phase2 ≤ HistoryWindow.default.phase3 ∧
      HistoryWindow.default.phase3 ≤ HistoryWindow.default.finish) ∧
    ∃ samples : List DaySample,
      generateHistory HistoryWindow.default ⟨42⟩ = .ok (samples, Nat.repeat step 270 ⟨42⟩) ∧
      samples.length = 90 := by
  have span : HistoryWindow.default.totalDays.toNat = 89 := by decide
  obtain ⟨samples, -, run, -, length, -⟩ :=
    (generateHistory_spec HistoryWindow.default ⟨42⟩ 42).2.1 default_ordered
  rw [span] at run length
  exact ⟨default_ordered, samples, run, length⟩

end SwapDesk
