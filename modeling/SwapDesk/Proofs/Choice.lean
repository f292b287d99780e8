import Mathlib
import SwapDesk.Proofs.Period
import SwapDesk.Simulation.Trades

/-! # Uniform choices end

Nothing in the rejection loop decreases; the generator's cycle ends it. Within one period it
reaches state `1`, whose word `0` is always accepted, so the loop stops at its first accepted
word well within its fuel (`MinStd.uniformIndex_spec`).
-/

namespace SwapDesk

namespace MinStd

/-- The multiply of a word by `n` is accepted when its low half falls in the zone. -/
def Accepts (n : Nat) (w : UInt32) : Prop := w.toNat * n % 2 ^ 32 ≤ zone 32 n

instance (n : Nat) (w : UInt32) : Decidable (Accepts n w) :=
  inferInstanceAs (Decidable (_ ≤ _))

theorem accepts_zero (n : Nat) : Accepts n 0 := by
  simp [Accepts]

theorem wordAt_eq (g : MinStd) (j : Nat) :
    wordAt g j = ((Nat.repeat step (j + 1) g).unit * 4294967296.0).toUInt32 := rfl

theorem word_of_one : ((⟨1⟩ : MinStd).unit * 4294967296.0).toUInt32 = 0 := by decide +kernel

/-- Within one period the generator comes to the state `1`, whose word is zero. -/
theorem exists_wordAt_zero {g : MinStd} (valid : Valid g) : ∃ j, j < period ∧ wordAt g j = 0 := by
  obtain ⟨k, low, high, one⟩ := exists_repeat_step_state valid (le_refl 1) period_pos
  obtain ⟨j, rfl⟩ : ∃ j, k = j + 1 := ⟨k - 1, by omega⟩
  refine ⟨j, by omega, ?_⟩
  rw [wordAt_eq, eq_of_state_eq (h := ⟨1⟩) one]
  exact word_of_one

theorem roundValue_run_32 (g : MinStd) : (roundValue 32).run g = ((wordAt g 0).toNat, step g) :=
  rfl

/-- **Loop lemma.** When the word of step `j + 1` is the first accepted and the fuel lasts for
`j + 1` rounds, the loop answers its high half after exactly `j + 1` steps. -/
theorem rejectionLoop_first (n j : Nat) : ∀ (fuel : Nat) (g : MinStd), j < fuel →
    (∀ i < j, ¬ Accepts n (wordAt g i)) → Accepts n (wordAt g j) →
    (rejectionLoop 32 n fuel).run g =
      (some ((wordAt g j).toNat * n / 2 ^ 32), Nat.repeat step (j + 1) g) := by
  -- induction on the rounds before the accepted one, each starting a step further on
  induction j with
  | zero =>
    intro fuel g within _ accepted
    obtain ⟨fuel, rfl⟩ : ∃ rest, fuel = rest + 1 := ⟨fuel - 1, by omega⟩
    have acceptedFirst : (wordAt g 0).toNat * n % Nat.pow 2 32 ≤ zone 32 n := accepted
    rw [rejectionLoop_succ, run_bind, roundValue_run_32]
    simp only [acceptedFirst, if_true]
    rfl
  | succ j ih =>
    intro fuel g within rejected accepted
    obtain ⟨fuel, rfl⟩ : ∃ rest, fuel = rest + 1 := ⟨fuel - 1, by omega⟩
    have rejectedFirst : ¬ (wordAt g 0).toNat * n % Nat.pow 2 32 ≤ zone 32 n :=
      rejected 0 (Nat.succ_pos j)
    have rest := ih fuel (step g) (by omega)
      (fun i before => by rw [wordAt_step]; exact rejected (i + 1) (by omega))
      (by rw [wordAt_step]; exact accepted)
    rw [rejectionLoop_succ, run_bind, roundValue_run_32]
    simp only [rejectedFirst, if_false]
    rw [rest, wordAt_step, ← repeat_step_succ]

theorem high_half_lt (w : UInt32) {n : Nat} (pos : 0 < n) : w.toNat * n / 2 ^ 32 < n := by
  have fits := w.toNat_lt
  rw [Nat.div_lt_iff_lt_mul (by positivity)]
  calc w.toNat * n < 2 ^ 32 * n := Nat.mul_lt_mul_of_pos_right fits pos
    _ = n * 2 ^ 32 := Nat.mul_comm _ _

/-- From a valid state some word within one period is accepted, and so a first one is. -/
theorem exists_first_accepted {g : MinStd} (valid : Valid g) (n : Nat) :
    ∃ j, j < period ∧ (∀ i < j, ¬ Accepts n (wordAt g i)) ∧ Accepts n (wordAt g j) := by
  obtain ⟨zeroAt, within, zero⟩ := exists_wordAt_zero valid
  have acceptedZero : Accepts n (wordAt g zeroAt) := by
    rw [zero]
    exact accepts_zero n
  have accepted : ∃ j, Accepts n (wordAt g j) := ⟨zeroAt, acceptedZero⟩
  exact ⟨Nat.find accepted, lt_of_le_of_lt (Nat.find_min' accepted acceptedZero) within,
    fun _ before => Nat.find_min accepted before, Nat.find_spec accepted⟩

/-- A choice from `1 … 2^32 - 1` things answers the high half of the first accepted word. -/
theorem uniformIndex_run {g : MinStd} (valid : Valid g) {n : Nat} (pos : 1 ≤ n)
    (fits : n ≤ 2 ^ 32 - 1) : ∃ j, j < period ∧
      (∀ i < j, ¬ Accepts n (wordAt g i)) ∧ Accepts n (wordAt g j) ∧
      (uniformIndex n).run g =
        (some ((wordAt g j).toNat * n / 2 ^ 32), Nat.repeat step (j + 1) g) ∧
      (wordAt g j).toNat * n / 2 ^ 32 < n := by
  obtain ⟨j, within, rejected, accepted⟩ := exists_first_accepted valid n
  have narrow : n < Nat.pow 2 32 := by
    show n < 2 ^ 32
    omega
  refine ⟨j, within, rejected, accepted, ?_, high_half_lt _ pos⟩
  rw [uniformIndex, if_neg (by omega), if_pos narrow]
  exact rejectionLoop_first n j period g within rejected accepted

/-- A draw from a non-empty list takes the element at the index the choice answers: the
fallback is never used. -/
theorem drawFrom_run {α : Type} {g : MinStd} (valid : Valid g) (xs : List α) (fallback : α)
    (nonempty : xs ≠ []) (fits : xs.length ≤ 2 ^ 32 - 1) :
    ∃ i, ∃ h : i < xs.length, ((uniformIndex xs.length).run g).1 = some i ∧
      ((drawFrom xs fallback).run g).1 = xs[i] := by
  obtain ⟨j, -, -, -, run, below⟩ :=
    uniformIndex_run valid (List.length_pos_iff.mpr nonempty) fits
  refine ⟨_, below, by rw [run], ?_⟩
  rw [drawFrom, run_bind, run]
  exact List.getD_eq_getElem _ _ below

/-- **A uniform choice ends.** From every reachable state a choice from `1 … 2^32 - 1` things
stops within `2^31 - 2` draws at the first accepted word and answers an index below the count. -/
theorem uniformIndex_spec {g : MinStd} (reach : Reachable g) :
    (uniformIndex 0).run g = (none, g) ∧
    (∀ n, 1 ≤ n → n ≤ 2 ^ 32 - 1 → ∃ j, j < period ∧
      (∀ i < j, ¬ Accepts n (wordAt g i)) ∧ Accepts n (wordAt g j) ∧
      (uniformIndex n).run g =
        (some ((wordAt g j).toNat * n / 2 ^ 32), Nat.repeat step (j + 1) g) ∧
      (wordAt g j).toNat * n / 2 ^ 32 < n) ∧
    (∃ i, ∃ h : i < Direction.all.length,
      ((drawFrom Direction.all .solToUsdc).run g).1 = Direction.all[i]) ∧
    ∃ i, ∃ h : i < statusTable.length,
      ((drawFrom statusTable .confirmed).run g).1 = statusTable[i] := by
  have valid := reach.valid
  refine ⟨rfl, fun n pos fits => uniformIndex_run valid pos fits, ?directions, ?statuses⟩
  case directions =>
    obtain ⟨i, below, -, drawn⟩ := drawFrom_run valid Direction.all .solToUsdc (by decide)
      (by decide)
    exact ⟨i, below, drawn⟩
  case statuses =>
    obtain ⟨i, below, -, drawn⟩ := drawFrom_run valid statusTable .confirmed (by decide)
      (by decide)
    exact ⟨i, below, drawn⟩

/-- The generator seeded with `42` chooses within a period. -/
theorem uniformIndex_fortyTwo : Reachable ⟨42⟩ ∧
    (uniformIndex 0).run ⟨42⟩ = (none, ⟨42⟩) ∧
    (∀ n, 1 ≤ n → n ≤ 2 ^ 32 - 1 → ∃ j, j < period ∧
      (∀ i < j, ¬ Accepts n (wordAt ⟨42⟩ i)) ∧ Accepts n (wordAt ⟨42⟩ j) ∧
      (uniformIndex n).run ⟨42⟩ =
        (some ((wordAt ⟨42⟩ j).toNat * n / 2 ^ 32), Nat.repeat step (j + 1) ⟨42⟩) ∧
      (wordAt ⟨42⟩ j).toNat * n / 2 ^ 32 < n) ∧
    (∃ i, ∃ h : i < Direction.all.length,
      ((drawFrom Direction.all .solToUsdc).run ⟨42⟩).1 = Direction.all[i]) ∧
    ∃ i, ∃ h : i < statusTable.length,
      ((drawFrom statusTable .confirmed).run ⟨42⟩).1 = statusTable[i] :=
  have reach : Reachable ⟨42⟩ := .seeded (by decide : ofSeed? 42 = some ⟨42⟩)
  ⟨reach, uniformIndex_spec reach⟩

end MinStd

end SwapDesk
