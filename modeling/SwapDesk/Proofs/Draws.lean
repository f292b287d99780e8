import Mathlib
import SwapDesk.Proofs.History

/-! # What each call draws

Every number comes from one step of the recurrence; calls only group the steps.
`draws_closed_form` counts them and says which step each word and byte comes from.
-/

namespace SwapDesk

namespace MinStd

/-! ## Steps -/

/-- The closed form of the state, `k` steps on from a valid state. -/
theorem state_repeat_of_valid {g : MinStd} (valid : Valid g) (k : Nat) :
    (Nat.repeat step k g).state = g.state * multiplier ^ k % modulus := by
  cases k with
  | zero => simp [Nat.repeat, Nat.mod_eq_of_lt valid.2]
  | succ k => exact state_repeat g (k + 1) (Nat.succ_pos k)

/-! ## Words -/

/-- The word of the step `j + 1` from a state. -/
def wordAt (g : MinStd) (j : Nat) : UInt32 := (nextWord32.run (Nat.repeat step j g)).1

theorem nextWord32_run (g : MinStd) : nextWord32.run g = (wordAt g 0, step g) := rfl

theorem wordAt_step (g : MinStd) (j : Nat) : wordAt (step g) j = wordAt g (j + 1) := by
  rw [wordAt, wordAt, repeat_step_succ]

theorem nextWord64_run (g : MinStd) : nextWord64.run g =
    ((wordAt g 0).toUInt64 <<< 32 ||| (wordAt g 1).toUInt64, Nat.repeat step 2 g) := rfl

/-- Two words joined high half first are the number `hi · 2^32 + lo`. -/
theorem toNat_join (hi lo : UInt32) :
    ((hi.toUInt64 <<< 32) ||| lo.toUInt64).toNat = hi.toNat * 2 ^ 32 + lo.toNat := by
  have lowFits := lo.toNat_lt
  have highFits := hi.toNat_lt
  simp only [UInt64.toNat_or, UInt64.toNat_shiftLeft, UInt32.toNat_toUInt64]
  have shifted : hi.toNat <<< 32 < 2 ^ 64 := by rw [Nat.shiftLeft_eq]; omega
  rw [show (32 : UInt64).toNat % 64 = 32 from rfl, Nat.mod_eq_of_lt shifted,
    ← Nat.shiftLeft_add_eq_or_of_lt lowFits, Nat.shiftLeft_eq]

theorem words_run : ∀ (n : Nat) (g : MinStd),
    (words n).run g = ((List.range n).map (wordAt g), Nat.repeat step n g)
  | 0, _ => rfl
  | n + 1, g => by
    have shifted : (List.range n).map (wordAt (step g)) =
        (List.range n).map (wordAt g ∘ Nat.succ) :=
      List.map_congr_left fun j _ => wordAt_step g j
    rw [words, run_bind, nextWord32_run, run_bind, words_run n (step g), shifted,
      List.range_succ_eq_map, List.map_cons, List.map_map, repeat_step_succ]
    rfl

/-! ## Bytes -/

theorem length_littleEndian (w : UInt32) : (littleEndian w).length = 4 := rfl

theorem toNat_littleEndian (w : UInt32) (j : Nat) (h : j < (littleEndian w).length) :
    (littleEndian w)[j].toNat = w.toNat / 256 ^ j % 256 := by
  rw [length_littleEndian] at h
  match j, h with
  | 0, _ => simp [littleEndian]
  | 1, _ => simp [littleEndian, Nat.shiftRight_eq_div_pow]
  | 2, _ => simp [littleEndian, Nat.shiftRight_eq_div_pow]
  | 3, _ => simp [littleEndian, Nat.shiftRight_eq_div_pow]

theorem length_flatMap_littleEndian (ws : List UInt32) :
    (ws.flatMap littleEndian).length = 4 * ws.length := by
  induction ws with
  | nil => rfl
  | cons w ws ih => simp only [List.flatMap_cons, List.length_append, ih, length_littleEndian,
      List.length_cons]; ring

/-- Byte `i` of the words written out is byte `i mod 4` of word `⌊i / 4⌋`. -/
theorem getElem_flatMap_littleEndian (ws : List UInt32) (i : Nat)
    (h : i < (ws.flatMap littleEndian).length) (word : i / 4 < ws.length)
    (byte : i % 4 < (littleEndian ws[i / 4]).length) :
    (ws.flatMap littleEndian)[i] = (littleEndian ws[i / 4])[i % 4] := by
  induction ws generalizing i with
  | nil => simp at word
  | cons w ws ih =>
    simp only [List.flatMap_cons] at h ⊢
    by_cases first : i < 4
    · -- within the first word
      rw [List.getElem_append_left (by rw [length_littleEndian]; omega)]
      simp [Nat.div_eq_of_lt first, Nat.mod_eq_of_lt first]
    · -- in the words after it, four bytes further on
      have quotient : i / 4 = (i - 4) / 4 + 1 := by omega
      have remainder : (i - 4) % 4 = i % 4 := by omega
      rw [List.getElem_append_right (by rw [length_littleEndian]; omega)]
      simp only [length_littleEndian]
      rw [ih (i - 4) (by simp only [List.length_append, length_littleEndian] at h; omega)
        (by simp only [List.length_cons] at word; omega) (by rw [length_littleEndian]; omega)]
      simp only [quotient, remainder, List.getElem_cons_succ]


/-- `n` bytes are the words of `⌈n / 4⌉` steps written out, cut to `n`. -/
theorem fillBytes_run (n : Nat) (g : MinStd) : (fillBytes n).run g =
    ((((List.range ((n + 3) / 4)).map (wordAt g)).flatMap littleEndian).take n,
      Nat.repeat step ((n + 3) / 4) g) := by
  rw [fillBytes, run_bind, words_run]
  rfl

theorem length_fillBytes (n : Nat) (g : MinStd) : ((fillBytes n).run g).1.length = n := by
  rw [fillBytes_run]
  simp only [List.length_take, length_flatMap_littleEndian, List.length_map, List.length_range]
  omega

/-- Byte `i` of `n` drawn bytes is byte `i mod 4` of the word `⌊i / 4⌋`. -/
theorem toNat_fillBytes (n : Nat) (g : MinStd) (i : Nat)
    (h : i < ((fillBytes n).run g).1.length) :
    ((fillBytes n).run g).1[i].toNat = (wordAt g (i / 4)).toNat / 256 ^ (i % 4) % 256 := by
  have inRange : i < n := by rwa [length_fillBytes] at h
  simp only [fillBytes_run, List.getElem_take]
  rw [getElem_flatMap_littleEndian _ _ (by rw [length_flatMap_littleEndian]; simp; omega)
    (by simp; omega) (by rw [length_littleEndian]; omega), toNat_littleEndian]
  simp

theorem fillBytes_prefix (g : MinStd) {n m : Nat} (le : n ≤ m) :
    ((fillBytes n).run g).1 <+: ((fillBytes m).run g).1 := by
  rw [List.prefix_iff_getElem]
  refine ⟨by rw [length_fillBytes, length_fillBytes]; exact le, fun i h => ?_⟩
  apply UInt8.toNat_inj.mp
  rw [toNat_fillBytes, toNat_fillBytes]

/-! ## Rounds of the rejection loop -/

/-- The number one round of the rejection loop draws: a 32-bit word, or a 64-bit one. -/
def roundValue (width : Nat) : Draw Nat :=
  if width = 32 then (fun w => w.toNat) <$> nextWord32 else (fun w => w.toNat) <$> nextWord64

def roundSteps (width : Nat) : Nat := if width = 32 then 1 else 2

theorem roundValue_state (width : Nat) (g : MinStd) :
    ((roundValue width).run g).2 = Nat.repeat step (roundSteps width) g := by
  unfold roundValue roundSteps
  split <;> rfl

theorem rejectionLoop_succ (width n fuel : Nat) : rejectionLoop width n (fuel + 1) =
    roundValue width >>= fun v => if v * n % Nat.pow 2 width ≤ zone width n
      then pure (some (v * n / Nat.pow 2 width)) else rejectionLoop width n fuel := by
  rw [rejectionLoop, roundValue]
  split <;> rfl

/-- The steps the rejection loop takes: a round's steps for every round until one accepts or
the fuel runs out. -/
def loopSteps (width n : Nat) : Nat → MinStd → Nat
  | 0, _ => 0
  | fuel + 1, g =>
    if ((roundValue width).run g).1 * n % Nat.pow 2 width ≤ zone width n then roundSteps width
    else roundSteps width + loopSteps width n fuel (Nat.repeat step (roundSteps width) g)

theorem rejectionLoop_state (width n : Nat) : ∀ fuel g,
    ((rejectionLoop width n fuel).run g).2 = Nat.repeat step (loopSteps width n fuel g) g
  | 0, _ => rfl
  | fuel + 1, g => by
    rw [rejectionLoop_succ, run_bind, loopSteps]
    by_cases accept : ((roundValue width).run g).1 * n % Nat.pow 2 width ≤ zone width n
    · simp only [accept, if_true]
      exact roundValue_state width g
    · simp only [accept, if_false]
      rw [rejectionLoop_state width n fuel, roundValue_state, Nat.add_comm, repeat_step_add]

def uniformSteps (n : Nat) (g : MinStd) : Nat :=
  if n = 0 then 0 else if n < Nat.pow 2 32 then loopSteps 32 n period g
  else loopSteps 64 n period g

theorem uniformIndex_state (n : Nat) (g : MinStd) :
    ((uniformIndex n).run g).2 = Nat.repeat step (uniformSteps n g) g := by
  unfold uniformIndex uniformSteps
  split
  · rfl
  · split
    · exact rejectionLoop_state 32 n period g
    · exact rejectionLoop_state 64 n period g

/-! ## Programs -/

def Call.draws : Call → MinStd → Nat
  | .nextFloat, _ => 1
  | .nextWord32, _ => 1
  | .nextWord64, _ => 2
  | .fillBytes n, _ => (n + 3) / 4
  | .choose n, g => uniformSteps n g

theorem Call.perform_eq (c : Call) (g : MinStd) : c.perform g = Nat.repeat step (c.draws g) g := by
  cases c with
  | nextFloat => rfl
  | nextWord32 => rfl
  | nextWord64 => rfl
  | fillBytes n => exact congrArg Prod.snd (fillBytes_run n g)
  | choose n => exact uniformIndex_state n g

def Call.performAll : List Call → MinStd → MinStd
  | [], g => g
  | c :: cs, g => performAll cs (c.perform g)

def Call.drawsAll : List Call → MinStd → Nat
  | [], _ => 0
  | c :: cs, g => c.draws g + drawsAll cs (c.perform g)

/-- A program moves the generator by the steps of its calls, one after the other. -/
theorem Call.performAll_eq : ∀ (cs : List Call) (g : MinStd),
    performAll cs g = Nat.repeat step (drawsAll cs g) g
  | [], _ => rfl
  | c :: cs, g => by
    rw [performAll, drawsAll, performAll_eq cs, c.perform_eq, Nat.add_comm (c.draws g),
      repeat_step_add]

/-- **What the calls draw.** From a valid state a program leaves `state · 16807^k mod (2^31 - 1)`
for `k` the steps of its calls; a 64-bit word takes two steps, high half first, and byte `i` of
`n` bytes is byte `i mod 4` of word `⌊i / 4⌋`. -/
theorem draws_closed_form {g : MinStd} (valid : Valid g) :
    (∀ cs : List Call,
      (Call.performAll cs g).state = g.state * multiplier ^ Call.drawsAll cs g % modulus) ∧
    (nextWord64.run g).2 = Nat.repeat step 2 g ∧
    (nextWord64.run g).1.toNat = (wordAt g 0).toNat * 2 ^ 32 + (wordAt g 1).toNat ∧
    (∀ n, ((fillBytes n).run g).2 = Nat.repeat step ((n + 3) / 4) g ∧
      ((fillBytes n).run g).1.length = n ∧
      ∀ i (h : i < ((fillBytes n).run g).1.length),
        ((fillBytes n).run g).1[i].toNat = (wordAt g (i / 4)).toNat / 256 ^ (i % 4) % 256) ∧
    ∀ n m, n ≤ m → ((fillBytes n).run g).1 <+: ((fillBytes m).run g).1 := by
  refine ⟨fun cs => ?_, rfl, ?_, fun n => ⟨?_, length_fillBytes n g, toNat_fillBytes n g⟩,
    fun n m le => fillBytes_prefix g le⟩
  · rw [Call.performAll_eq, state_repeat_of_valid valid]
  · rw [nextWord64_run]
    exact toNat_join _ _
  · rw [fillBytes_run]

/-- The state `42` is valid, and what its calls draw. -/
theorem draws_from_fortyTwo :
    Valid ⟨42⟩ ∧
    (∀ cs : List Call, (Call.performAll cs ⟨42⟩).state =
      (⟨42⟩ : MinStd).state * multiplier ^ Call.drawsAll cs ⟨42⟩ % modulus) ∧
    (nextWord64.run ⟨42⟩).2 = Nat.repeat step 2 ⟨42⟩ ∧
    (nextWord64.run ⟨42⟩).1.toNat = (wordAt ⟨42⟩ 0).toNat * 2 ^ 32 + (wordAt ⟨42⟩ 1).toNat ∧
    (∀ n, ((fillBytes n).run ⟨42⟩).2 = Nat.repeat step ((n + 3) / 4) ⟨42⟩ ∧
      ((fillBytes n).run ⟨42⟩).1.length = n ∧
      ∀ i (h : i < ((fillBytes n).run ⟨42⟩).1.length),
        ((fillBytes n).run ⟨42⟩).1[i].toNat = (wordAt ⟨42⟩ (i / 4)).toNat / 256 ^ (i % 4) % 256) ∧
    ∀ n m, n ≤ m → ((fillBytes n).run ⟨42⟩).1 <+: ((fillBytes m).run ⟨42⟩).1 :=
  have valid : Valid ⟨42⟩ := ⟨by decide, by decide⟩
  ⟨valid, draws_closed_form valid⟩

end MinStd

end SwapDesk
