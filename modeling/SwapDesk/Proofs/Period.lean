import Mathlib
import SwapDesk.Proofs.Draws

/-! # The period of the minimal standard generator

`16807` is a primitive root modulo the prime `2^31 - 1`, by Lucas's criterion over the primes of
`2^31 - 2`, so from every valid state the generator runs through all valid states, each once
(`full_period`).
-/

namespace SwapDesk

namespace MinStd

/-! ## A primitive root -/

theorem period_pos : 0 < period := by decide

/-- The prime factors of `2^31 - 2`. -/
theorem mem_factors_of_dvd {q : Nat} (prime : q.Prime) (divides : q ∣ period) :
    q ∈ [2, 3, 3, 7, 11, 31, 151, 331] := by
  have factors : Nat.primeFactorsList period = [2, 3, 3, 7, 11, 31, 151, 331] := by
    unfold period
    simp
  rw [← factors]
  exact (Nat.mem_primeFactorsList period_pos.ne').mpr ⟨prime, divides⟩

theorem multiplier_pow_period : (multiplier : ZMod modulus) ^ period = 1 := by
  unfold multiplier modulus period
  reduce_mod_char

theorem multiplier_pow_div_ne_one {q : Nat} (prime : q.Prime) (divides : q ∣ period) :
    (multiplier : ZMod modulus) ^ (period / q) ≠ 1 := by
  have factor := mem_factors_of_dvd prime divides
  simp only [List.mem_cons, List.not_mem_nil, or_false] at factor
  unfold multiplier modulus period
  rcases factor with rfl | rfl | rfl | rfl | rfl | rfl | rfl | rfl <;>
    (reduce_mod_char; decide)

/-- `16807` has order `2^31 - 2` modulo `2^31 - 1`. -/
theorem orderOf_multiplier : orderOf (multiplier : ZMod modulus) = period :=
  orderOf_eq_of_pow_and_pow_div_prime period_pos multiplier_pow_period
    fun _ prime divides => multiplier_pow_div_ne_one prime divides

/-- The modulus `2^31 - 1` is prime, by Lucas's test with the witness `16807`. -/
theorem modulus_prime : modulus.Prime :=
  lucas_primality modulus (multiplier : ZMod modulus) multiplier_pow_period
    fun _ prime divides => multiplier_pow_div_ne_one prime divides

instance : Fact modulus.Prime := ⟨modulus_prime⟩

/-! ## The cycle of states -/

theorem eq_of_state_eq {g h : MinStd} (same : g.state = h.state) : g = h := by
  cases g
  cases h
  simp_all

/-- The valid states are `1 … 2^31 - 2`, as many as the steps of a period. -/
theorem state_le_period {g : MinStd} (valid : Valid g) : g.state ≤ period := by
  have := valid.2
  unfold modulus at this
  unfold period
  omega

/-- `k` steps multiply the state by `16807^k` in the residues modulo `2^31 - 1`. -/
theorem cast_state_repeat {g : MinStd} (valid : Valid g) (k : Nat) :
    ((Nat.repeat step k g).state : ZMod modulus) = g.state * (multiplier : ZMod modulus) ^ k := by
  rw [state_repeat_of_valid valid, ZMod.natCast_mod, Nat.cast_mul, Nat.cast_pow]

theorem cast_state_ne_zero {g : MinStd} (valid : Valid g) : (g.state : ZMod modulus) ≠ 0 := by
  rw [Ne, ZMod.natCast_eq_zero_iff]
  intro divides
  have := Nat.le_of_dvd valid.1 divides
  exact absurd valid.2 (by omega)

theorem eq_of_cast_state {g h : MinStd} (validG : Valid g) (validH : Valid h)
    (same : (g.state : ZMod modulus) = h.state) : g = h := by
  rw [ZMod.natCast_eq_natCast_iff', Nat.mod_eq_of_lt validG.2, Nat.mod_eq_of_lt validH.2] at same
  exact eq_of_state_eq same

/-- **Cycle lemma.** From a valid state, `i` and `j` steps lead to the same state exactly when
`i ≡ j` modulo `2^31 - 2`. -/
theorem repeat_step_eq_iff {g : MinStd} (valid : Valid g) (i j : Nat) :
    Nat.repeat step i g = Nat.repeat step j g ↔ i % period = j % period := by
  have finiteOrder : IsOfFinOrder (multiplier : ZMod modulus) := by
    rw [← orderOf_pos_iff, orderOf_multiplier]
    exact period_pos
  rw [← orderOf_multiplier, ← finiteOrder.pow_inj_mod,
    ← mul_right_inj' (cast_state_ne_zero valid), ← cast_state_repeat valid,
    ← cast_state_repeat valid]
  constructor
  · intro same
    rw [same]
  · exact eq_of_cast_state (valid_repeat valid i) (valid_repeat valid j)

/-- One period of steps brings every valid state back. -/
theorem repeat_step_period {g : MinStd} (valid : Valid g) : Nat.repeat step period g = g :=
  (repeat_step_eq_iff valid period 0).mpr (by simp)

/-- The states one to `2^31 - 2` steps on are pairwise distinct. -/
theorem repeat_step_injOn {g : MinStd} (valid : Valid g) {i j : Nat} (low : 1 ≤ i)
    (high : j ≤ period) (before : i < j) : Nat.repeat step i g ≠ Nat.repeat step j g := by
  rw [Ne, repeat_step_eq_iff valid]
  -- of two distinct step counts in `[1, period]` only `period` itself is `0` modulo the period
  by_cases last : j = period
  · subst last
    rw [Nat.mod_self, Nat.mod_eq_of_lt before]
    omega
  · rw [Nat.mod_eq_of_lt (by omega), Nat.mod_eq_of_lt (by omega)]
    omega

/-- **Every valid state comes round.** From a valid state, each valid state is reached after
between one and `2^31 - 2` steps. -/
theorem exists_repeat_step_state {g : MinStd} (valid : Valid g) {v : Nat} (low : 1 ≤ v)
    (high : v ≤ period) : ∃ k, 1 ≤ k ∧ k ≤ period ∧ (Nat.repeat step k g).state = v := by
  have onto := Finset.surj_on_of_inj_on_of_card_le (s := Finset.Icc 1 period)
    (t := Finset.Icc 1 period) (fun k _ => (Nat.repeat step k g).state)
    (fun k _ => by
      simp only [Finset.mem_Icc]
      exact ⟨(valid_repeat valid k).1, state_le_period (valid_repeat valid k)⟩)
    (fun i j memI memJ same => by
      simp only [Finset.mem_Icc] at memI memJ
      have states : Nat.repeat step i g = Nat.repeat step j g := eq_of_state_eq same
      rcases Nat.lt_trichotomy i j with before | equal | after
      · exact absurd states (repeat_step_injOn valid memI.1 memJ.2 before)
      · exact equal
      · exact absurd states.symm (repeat_step_injOn valid memJ.1 memI.2 after))
    le_rfl v (by simp only [Finset.mem_Icc]; exact ⟨low, high⟩)
  obtain ⟨k, mem, reached⟩ := onto
  simp only [Finset.mem_Icc] at mem
  exact ⟨k, mem.1, mem.2, reached.symm⟩

/-- Each valid state lies on the cycle of every other: its steps are those of the other,
shifted by fewer than `2^31 - 2`. -/
theorem exists_shift {g h : MinStd} (validG : Valid g) (validH : Valid h) :
    ∃ d, d < period ∧ ∀ k, Nat.repeat step k h = Nat.repeat step (k + d) g := by
  obtain ⟨d, low, high, reached⟩ :=
    exists_repeat_step_state validG validH.1 (state_le_period validH)
  have arrives : Nat.repeat step d g = h :=
    eq_of_cast_state (valid_repeat validG d) validH (by rw [reached])
  refine ⟨d % period, Nat.mod_lt _ period_pos, fun k => ?_⟩
  rw [← arrives, ← repeat_step_add, repeat_step_eq_iff validG, Nat.add_mod_mod]

/-- **Full period.** From an accepted seed the states one to `2^31 - 2` steps on are distinct,
the last is the start again, and every valid state is among them. -/
theorem full_period {seed : UInt64} (nondegenerate : seed.toNat % modulus ≠ 0) :
    ∃ g, ofSeed? seed = some g ∧ g.state = seed.toNat % modulus ∧
      (∀ i j, 1 ≤ i → i < j → j ≤ period → Nat.repeat step i g ≠ Nat.repeat step j g) ∧
      Nat.repeat step period g = g ∧
      (∀ v, 1 ≤ v → v ≤ period → ∃ k, 1 ≤ k ∧ k ≤ period ∧ (Nat.repeat step k g).state = v) ∧
      ∀ seed' g', ofSeed? seed' = some g' →
        ∃ d, d < period ∧ ∀ k, Nat.repeat step k g' = Nat.repeat step (k + d) g := by
  have seeded : ofSeed? seed = some ⟨seed.toNat % modulus⟩ := by
    simp [ofSeed?, nondegenerate]
  have valid := valid_of_ofSeed? seeded
  exact ⟨_, seeded, rfl, fun i j low before high => repeat_step_injOn valid low high before,
    repeat_step_period valid, fun v low high => exists_repeat_step_state valid low high,
    fun _ _ other => exists_shift valid (valid_of_ofSeed? other)⟩

/-- The seed `42` runs through the whole cycle. -/
theorem full_period_fortyTwo : (42 : UInt64).toNat % modulus ≠ 0 ∧
    ∃ g, ofSeed? 42 = some g ∧ g.state = (42 : UInt64).toNat % modulus ∧
      (∀ i j, 1 ≤ i → i < j → j ≤ period → Nat.repeat step i g ≠ Nat.repeat step j g) ∧
      Nat.repeat step period g = g ∧
      (∀ v, 1 ≤ v → v ≤ period → ∃ k, 1 ≤ k ∧ k ≤ period ∧ (Nat.repeat step k g).state = v) ∧
      ∀ seed' g', ofSeed? seed' = some g' →
        ∃ d, d < period ∧ ∀ k, Nat.repeat step k g' = Nat.repeat step (k + d) g :=
  have nondegenerate : (42 : UInt64).toNat % modulus ≠ 0 := by decide
  ⟨nondegenerate, full_period nondegenerate⟩

end MinStd

end SwapDesk
