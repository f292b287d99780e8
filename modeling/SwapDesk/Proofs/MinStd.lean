import Mathlib
import SwapDesk.Random.Uniform
import SwapDesk.Proofs.Binary64

/-! # The states of the minimal standard generator

Every call a program makes keeps a seeded generator's state in `[1, 2^31 - 2]`
(`reachable_state_bounds`): the multiplier is prime to the modulus (`valid_step`), and every draw,
the rejection loop included, only moves along the recurrence (`Advances`).
-/

namespace SwapDesk

namespace MinStd

/-! ## The invariant -/

/-- A state the recurrence can be in: neither zero nor beyond the modulus. -/
def Valid (g : MinStd) : Prop := 1 ≤ g.state ∧ g.state < modulus

theorem multiplier_coprime : Nat.Coprime modulus multiplier := by decide

/-- One step keeps the state valid: the modulus divides neither the state nor the
multiplier, hence not their product. -/
theorem valid_step {g : MinStd} (valid : Valid g) : Valid g.step := by
  obtain ⟨pos, lt⟩ := valid
  refine ⟨Nat.pos_of_ne_zero fun zero => ?_, Nat.mod_lt _ (by decide)⟩
  have divides : modulus ∣ g.state * multiplier := Nat.dvd_of_mod_eq_zero zero
  have := Nat.le_of_dvd pos (multiplier_coprime.dvd_of_dvd_mul_right divides)
  omega

theorem valid_repeat {g : MinStd} (valid : Valid g) : ∀ k, Valid (Nat.repeat step k g)
  | 0 => valid
  | k + 1 => valid_step (valid_repeat valid k)

theorem valid_of_ofSeed? {seed : UInt64} {g : MinStd} (seeded : ofSeed? seed = some g) :
    Valid g := by
  unfold ofSeed? at seeded
  dsimp only at seeded
  split at seeded
  · contradiction
  next nonzero =>
    cases seeded
    exact ⟨Nat.pos_of_ne_zero nonzero, Nat.mod_lt _ (by decide)⟩

theorem ofSeed?_isSome_iff (seed : UInt64) : (ofSeed? seed).isSome ↔ seed.toNat % modulus ≠ 0 := by
  unfold ofSeed?
  dsimp only
  split <;> simp_all

/-! ## The double of a state -/

open Binary64

theorem unpack_divisor : (2147483646.0 : Float).toModel.unpack =
    .finite .positive (2147483646 * 2 ^ 22) (-22) (by decide) := by rfl

theorem quotient_le (m : Nat) (high : m < 2 ^ 53) :
    m * 2 ^ 53 / (2147483646 * 2 ^ 22) ≤ 2 ^ 54 - 3 := by omega

/-- For a state of at least two, `(state - 1) / (2^31 - 2)` is a positive normal double whose
exponent puts it below one. With `n = state - 1` of `k + 1` bits, the quotient has exponent
`k - 83` or one more; only for `k = 30` could one more reach one, and there the quotient
mantissa `n · 2^53 / (2^31 - 2)` stays below `2^53 - 1`, so no carry happens. -/
theorem unit_bounds_of_two_le {g : MinStd} (two : 2 ≤ g.state) (high : g.state < modulus) :
    0 ≤ g.unit ∧ g.unit < 1 := by
  obtain ⟨n, hn⟩ : ∃ n, n = g.state - 1 := ⟨_, rfl⟩
  have unit_eq : g.unit = Float.ofNat n / 2147483646.0 := by rw [hn]; rfl
  have nPos : 0 < n := by omega
  have nHigh : n ≤ 2147483645 := by unfold modulus at high; omega
  have kLe : n.log2 ≤ 30 := by
    have := (Nat.log2_lt (Nat.ne_of_gt nPos)).mpr (show n < 2 ^ 31 by omega)
    omega
  obtain ⟨-, mLow, mHigh⟩ := normalized_mem_binade nPos (by omega)
  obtain ⟨M, E, pos, quotient, -, -, -, eBelow, exact⟩ :=
    unpack_div_normal (unpack_floatOfNat nPos (by omega)) unpack_divisor mLow mHigh (by decide)
      (by decide) (quotient_le _ mHigh) (by omega) (by omega)
  have below : E < -52 := by
    -- only a numerator of 31 bits could carry the quotient up to the exponent of one
    by_cases top : n.log2 = 30
    · have narrow : n * 2 ^ (52 - n.log2) * 2 ^ 53 / (2147483646 * 2 ^ 22) < 2 ^ 53 - 1 := by
        rw [top]
        omega
      have := exact narrow
      omega
    · omega
  rw [unit_eq]
  exact ⟨zero_le_of_unpack quotient, lt_one_of_unpack quotient below⟩

/-- The double of a valid state lies in `[0, 1)`. -/
theorem unit_bounds {g : MinStd} (valid : Valid g) : 0 ≤ g.unit ∧ g.unit < 1 := by
  obtain ⟨pos, high⟩ := valid
  by_cases one : g.state = 1
  · -- the least state reads as zero
    obtain ⟨s⟩ := g
    dsimp only at one
    subst one
    decide
  · exact unit_bounds_of_two_le (by omega) high

/-! ## Draws move along the recurrence -/

/-- A draw ends some number of steps of the recurrence after where it starts. -/
def Advances {α : Type} (x : Draw α) : Prop := ∀ g, ∃ k, (x.run g).2 = Nat.repeat step k g

theorem repeat_step_add (j k : Nat) (g : MinStd) :
    Nat.repeat step (j + k) g = Nat.repeat step j (Nat.repeat step k g) := by
  induction j with
  | zero => rw [Nat.zero_add]; rfl
  | succ j ih => rw [Nat.succ_add]; exact congrArg step ih

variable {α β : Type}

theorem advances_pure (a : α) : Advances (pure a : Draw α) := fun _ => ⟨0, rfl⟩

theorem Advances.bind {x : Draw α} {f : α → Draw β} (first : Advances x)
    (rest : ∀ a, Advances (f a)) : Advances (x >>= f) := by
  intro g
  obtain ⟨k, afterFirst⟩ := first g
  obtain ⟨j, afterRest⟩ := rest (x.run g).1 (x.run g).2
  refine ⟨j + k, ?_⟩
  rw [repeat_step_add, ← afterFirst, ← afterRest]
  rfl

theorem Advances.map {x : Draw α} (f : α → β) (advances : Advances x) : Advances (f <$> x) := by
  intro g
  obtain ⟨k, after⟩ := advances g
  exact ⟨k, after⟩

theorem advances_ite {p : Prop} [Decidable p] {x y : Draw α} (left : Advances x)
    (right : Advances y) : Advances (if p then x else y) := by
  split
  · exact left
  · exact right

theorem advances_nextFloat : Advances nextFloat := fun _ => ⟨1, rfl⟩

theorem advances_nextWord32 : Advances nextWord32 := fun _ => ⟨1, rfl⟩

theorem advances_nextWord64 : Advances nextWord64 :=
  advances_nextWord32.bind fun _ => advances_nextWord32.bind fun _ => advances_pure _

theorem advances_words : ∀ n, Advances (words n)
  | 0 => advances_pure _
  | n + 1 => advances_nextWord32.bind fun _ => (advances_words n).bind fun _ => advances_pure _

theorem advances_fillBytes (n : Nat) : Advances (fillBytes n) :=
  (advances_words _).bind fun _ => advances_pure _

/-- The rejection loop draws a word at each round and stops or goes on; either way it only
moves along the recurrence. -/
theorem advances_rejectionLoop (width n : Nat) : ∀ fuel, Advances (rejectionLoop width n fuel)
  | 0 => advances_pure _
  | fuel + 1 => by
    have decide_ : ∀ v : Nat, Advances (if v * n % Nat.pow 2 width ≤ zone width n then
        pure (some (v * n / Nat.pow 2 width)) else rejectionLoop width n fuel) :=
      fun _ => advances_ite (advances_pure _) (advances_rejectionLoop width n fuel)
    unfold rejectionLoop
    exact advances_ite ((advances_nextWord32.map _).bind decide_)
      ((advances_nextWord64.map _).bind decide_)

theorem advances_uniformIndex (n : Nat) : Advances (uniformIndex n) :=
  advances_ite (advances_pure _)
    (advances_ite (advances_rejectionLoop 32 n period) (advances_rejectionLoop 64 n period))

/-! ## Programs on the generator -/

/-- A call a program makes on the generator: a double, a 32-bit or 64-bit word, `n` bytes,
or a uniform choice from a slice of length `n`. -/
inductive Call where
  | nextFloat
  | nextWord32
  | nextWord64
  | fillBytes (n : Nat)
  | choose (n : Nat)
  deriving DecidableEq, Repr

def Call.perform : Call → MinStd → MinStd
  | .nextFloat, g => (MinStd.nextFloat.run g).2
  | .nextWord32, g => (MinStd.nextWord32.run g).2
  | .nextWord64, g => (MinStd.nextWord64.run g).2
  | .fillBytes n, g => ((MinStd.fillBytes n).run g).2
  | .choose n, g => ((uniformIndex n).run g).2

theorem Call.advances (c : Call) (g : MinStd) : ∃ k, c.perform g = Nat.repeat step k g := by
  cases c with
  | nextFloat => exact advances_nextFloat g
  | nextWord32 => exact advances_nextWord32 g
  | nextWord64 => exact advances_nextWord64 g
  | fillBytes n => exact advances_fillBytes n g
  | choose n => exact advances_uniformIndex n g

/-- The states a program can see: a seeded generator, and the generator after any call on
a state it can see. -/
inductive Reachable : MinStd → Prop where
  | seeded {seed : UInt64} {g : MinStd} : ofSeed? seed = some g → Reachable g
  | call {g : MinStd} (c : Call) : Reachable g → Reachable (c.perform g)

theorem Call.valid_perform (c : Call) {g : MinStd} (valid : Valid g) : Valid (c.perform g) := by
  obtain ⟨k, after⟩ := c.advances g
  rw [after]
  exact valid_repeat valid k

theorem Reachable.valid {g : MinStd} (reach : Reachable g) : Valid g := by
  induction reach with
  | seeded seeded => exact valid_of_ofSeed? seeded
  | call c _ valid => exact c.valid_perform valid

/-- **The state a program sees is always valid**: in `[1, 2^31 - 2]`, so its product by `16807`
fits 64 bits and the next double drawn lies in `[0, 1)`. -/
theorem reachable_state_bounds {g : MinStd} (reach : Reachable g) :
    1 ≤ g.state ∧ g.state ≤ 2 ^ 31 - 2 ∧ g.state * multiplier < 2 ^ 64 ∧
      (nextFloat.run g).1 = Float.ofNat ((nextFloat.run g).2.state - 1) / 2147483646.0 ∧
      0 ≤ (nextFloat.run g).1 ∧ (nextFloat.run g).1 < 1 := by
  obtain ⟨pos, high⟩ := reach.valid
  have next := unit_bounds (valid_step reach.valid)
  unfold modulus at high
  unfold multiplier
  exact ⟨pos, by omega, by omega, rfl, next⟩

/-- The generator seeded with `42`, after a uniform choice among ten. -/
theorem seeded_state_bounds :
    Reachable ((Call.choose 10).perform ⟨42⟩) ∧
      1 ≤ ((Call.choose 10).perform ⟨42⟩).state ∧
      ((Call.choose 10).perform ⟨42⟩).state ≤ 2 ^ 31 - 2 ∧
      ((Call.choose 10).perform ⟨42⟩).state * multiplier < 2 ^ 64 ∧
      (nextFloat.run ((Call.choose 10).perform ⟨42⟩)).1 =
        Float.ofNat ((nextFloat.run ((Call.choose 10).perform ⟨42⟩)).2.state - 1) / 2147483646.0 ∧
      0 ≤ (nextFloat.run ((Call.choose 10).perform ⟨42⟩)).1 ∧
      (nextFloat.run ((Call.choose 10).perform ⟨42⟩)).1 < 1 :=
  have reach : Reachable ((Call.choose 10).perform ⟨42⟩) :=
    .call _ (.seeded (by decide : ofSeed? 42 = some ⟨42⟩))
  ⟨reach, reachable_state_bounds reach⟩

end MinStd

end SwapDesk
