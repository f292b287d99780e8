import Mathlib
import SwapDesk.Random.MinStd

/-! # Positive normal doubles

The logical model of `Float` worked out for the doubles a generator draws, positive and normal
with a mantissa in `[2^52, 2^53)`: packing, exact conversion below `2^53`, rounding a long
mantissa (`roundWithAccuracy_le`), quotients (`unpack_div_normal`) and order.
-/

namespace SwapDesk

namespace Binary64

open Float.Model Float.Model.UnpackedFloat

/-! ## Packing -/

theorem unpackSign_packComponents (s : Sign) (x : BitVec 11) (y : BitVec 52) :
    @unpackSign .binary64 (packComponents .binary64 s x y) = s.toBitVec := by
  apply BitVec.eq_of_getLsbD_eq
  intro i hi
  obtain rfl : i = 0 := by omega
  simp only [unpackSign, packComponents, BitVec.getLsbD_cast, BitVec.getLsbD_extractLsb]
  rw [BitVec.getLsbD_append, if_neg (by decide), BitVec.getLsbD_append, if_neg (by decide)]
  cases s <;> rfl

theorem toNat_one_append (m : Nat) (low : 2 ^ 52 ≤ m) (high : m < 2 ^ 53) :
    (1#1 ++ BitVec.ofNat 52 m).toNat = m := by
  rw [BitVec.toNat_append, BitVec.toNat_ofNat, BitVec.toNat_ofNat,
    ← Nat.shiftLeft_add_eq_or_of_lt (Nat.mod_lt _ (by decide)), Nat.shiftLeft_eq]
  omega

/-- A positive normal double, with its exponent in the range of the format, comes back
from its 64 bits as it went in. -/
theorem unpack_pack_normal (m : Nat) (e : Int) (pos : 0 < m)
    (low : 2 ^ 52 ≤ m) (high : m < 2 ^ 53) (eLow : -1074 ≤ e) (eHigh : e ≤ 971) :
    UnpackedFloat.unpack .binary64 (UnpackedFloat.pack .binary64 (.finite .positive m e pos)) =
      .finite .positive m e pos := by
  have log : m.log2 = 52 := (Nat.log2_eq_iff (by omega)).mpr ⟨low, high⟩
  have bias : Format.binary64.exponentBias = 1023 := rfl
  have bits : Format.binary64.mantissaBits = 53 := rfl
  -- the biased exponent field, neither all zeros (subnormal) nor all ones (infinite)
  have biased : (BitVec.ofNat 11 (e + ((1023 : Nat) : Int) + ((52 : Nat) : Int)).toNat).toNat =
      (e + 1075).toNat := by
    rw [BitVec.toNat_ofNat]
    omega
  simp only [UnpackedFloat.pack, log, bias, bits]
  rw [if_neg (by omega)]
  simp only [UnpackedFloat.unpack, unpackMantissa_packComponents, unpackExponent_packComponents,
    unpackSign_packComponents, if_true]
  rw [if_neg (fun h => by have := congrArg BitVec.toNat h; rw [biased] at this; simp at this; omega),
    if_neg (fun h => by have := congrArg BitVec.toNat h; rw [biased] at this; simp at this; omega)]
  simp only [toNat_one_append m low high, biased, bias]
  congr 1
  omega

theorem model_unpack_pack (f : UnpackedFloat) :
    (Float.Model.pack f).unpack = UnpackedFloat.unpack .binary64 (UnpackedFloat.pack .binary64 f) := by
  simp only [Float.Model.pack, Float.Model.unpack]

/-! ## Rounding -/

theorem log2_of_bounds {q p : Nat} (low : 2 ^ p ≤ q) (high : q < 2 ^ (p + 1)) : q.log2 = p :=
  (Nat.log2_eq_iff (Nat.ne_of_gt (Nat.lt_of_lt_of_le (Nat.two_pow_pos p) low))).mpr ⟨low, high⟩

theorem log2_mul_pow (m j p : Nat) (low : 2 ^ p ≤ m) (high : m < 2 ^ (p + 1)) :
    (m * 2 ^ j).log2 = p + j := by
  apply log2_of_bounds
  · rw [Nat.pow_add]
    exact Nat.mul_le_mul_right _ low
  · rw [show p + j + 1 = (p + 1) + j by omega, Nat.pow_add]
    exact Nat.mul_lt_mul_of_pos_right high (Nat.two_pow_pos j)

theorem targetExponent_binary64 (t : Int) (h : -1021 ≤ t) :
    Format.binary64.targetExponent t = t - 53 := by
  simp only [Format.targetExponent, Format.mantissaBits, Format.minExponent]
  omega

/-- A mantissa of `52 + j + 1` bits is shifted right by `j` bits, into the binade
`[2^52, 2^53)`, when the result is not subnormal. -/
theorem shiftToTargetExponent_of_log2 (q j : Nat) (e : Int) (acc : Accuracy)
    (log : q.log2 = 52 + j) (eLow : -1074 ≤ e + j) :
    shiftToTargetExponent .binary64 q e acc =
      (ExtendedMantissa.ofMantissaAndAccuracy q acc >>> j, e + j) := by
  simp only [shiftToTargetExponent, shiftToExponent, Float.Model.totalExponent, log]
  rw [targetExponent_binary64 _ (by omega)]
  have shift : (↑(52 + j) + 1 + e - 53 - e).toNat = j := by omega
  rw [shift]

/-- A mantissa of the binade `[2^52, 2^53)` scaled by `2^j` shifts back to it. -/
theorem shiftToTargetExponent_scaled (m j : Nat) (e : Int) (acc : Accuracy) (low : 2 ^ 52 ≤ m)
    (high : m < 2 ^ 53) (eLow : -1074 ≤ e) :
    shiftToTargetExponent .binary64 (m * 2 ^ j) (e - j) acc =
      (ExtendedMantissa.ofMantissaAndAccuracy (m * 2 ^ j) acc >>> j, e) := by
  have shifted := shiftToTargetExponent_of_log2 (m * 2 ^ j) j (e - j) acc
    (log2_mul_pow m j 52 low high) (by omega)
  rwa [Int.sub_add_cancel] at shifted

theorem shiftRight_exact (m j : Nat) :
    (⟨m * 2 ^ j, false, false⟩ : ExtendedMantissa) >>> j = ⟨m, false, false⟩ := by
  induction j generalizing m with
  | zero => simp only [Nat.pow_zero, Nat.mul_one]; rfl
  | succ j ih =>
    show ExtendedMantissa.shiftRightOne
      (Nat.repeat ExtendedMantissa.shiftRightOne j ⟨m * 2 ^ (j + 1), false, false⟩) = _
    rw [show m * 2 ^ (j + 1) = (m * 2) * 2 ^ j by rw [Nat.pow_succ]; ac_rfl]
    rw [show Nat.repeat ExtendedMantissa.shiftRightOne j ⟨m * 2 * 2 ^ j, false, false⟩ =
      ⟨m * 2, false, false⟩ from ih (m * 2)]
    simp [ExtendedMantissa.shiftRightOne]

theorem mantissa_ofMantissaAndAccuracy (m : Nat) (acc : Accuracy) :
    (ExtendedMantissa.ofMantissaAndAccuracy m acc).mantissa = m := by
  cases acc with
  | exact => rfl
  | inexact o => cases o <;> rfl

theorem mantissa_shiftRight_zero (em : ExtendedMantissa) : (em >>> 0).mantissa = em.mantissa := rfl

theorem mantissa_shiftRight_one (em : ExtendedMantissa) : (em >>> 1).mantissa = em.mantissa / 2 := rfl

/-- Rounding to nearest moves a mantissa up by one at most: below half an ulp it stays, above
it moves up, and on a tie it moves up only from an odd mantissa. -/
theorem roundToNearestEven_bounds (m : Nat) (acc : Accuracy) :
    m ≤ acc.roundToNearestEven m ∧ acc.roundToNearestEven m ≤ m + 1 := by
  cases acc with
  | exact => exact ⟨Nat.le_refl m, Nat.le_succ m⟩
  | inexact o =>
    cases o with
    | lt => exact ⟨Nat.le_refl m, Nat.le_succ m⟩
    | eq =>
      simp only [Accuracy.roundToNearestEven]
      omega
    | gt => exact ⟨Nat.le_succ m, Nat.le_refl _⟩

theorem roundedMantissa_bounds (em : ExtendedMantissa) :
    em.mantissa ≤ em.roundedMantissa ∧ em.roundedMantissa ≤ em.mantissa + 1 :=
  roundToNearestEven_bounds em.mantissa em.accuracy

/-- `roundWithAccuracy` through its two shifts: the first to the target exponent, the second
for a carry out of the rounded mantissa. -/
theorem roundWithAccuracy_eq_finite (m : Nat) (e : Int) (acc : Accuracy)
    {em₁ em₂ : ExtendedMantissa} {e₁ e₂ : Int}
    (first : shiftToTargetExponent .binary64 m e acc = (em₁, e₁))
    (second : shiftToTargetExponent .binary64 em₁.roundedMantissa e₁ .exact = (em₂, e₂))
    (pos : 0 < em₂.mantissa) :
    roundWithAccuracy .binary64 .positive m e acc = .finite .positive em₂.mantissa e₂ pos := by
  simp only [roundWithAccuracy, first, second]
  rw [dif_neg (Nat.ne_of_gt pos)]

/-- A normal mantissa scaled by `2^j` rounds back to itself, without loss. -/
theorem roundWithAccuracy_exact (m j : Nat) (e : Int) (low : 2 ^ 52 ≤ m) (high : m < 2 ^ 53)
    (eLow : -1074 ≤ e) :
    roundWithAccuracy .binary64 .positive (m * 2 ^ j) (e - j) .exact =
      .finite .positive m e (by omega) := by
  have first : (ExtendedMantissa.ofMantissaAndAccuracy (m * 2 ^ j) .exact >>> j).roundedMantissa = m := by
    rw [show ExtendedMantissa.ofMantissaAndAccuracy (m * 2 ^ j) .exact = ⟨m * 2 ^ j, false, false⟩ from rfl,
      shiftRight_exact]
    rfl
  have second : shiftToTargetExponent .binary64 m e .exact = (⟨m, false, false⟩, e) := by
    have settled := shiftToTargetExponent_scaled m 0 e .exact low high eLow
    simp only [Nat.pow_zero, Nat.mul_one, Int.natCast_zero, Int.sub_zero] at settled
    rw [settled]
    rfl
  simp only [roundWithAccuracy, shiftToTargetExponent_scaled m j e .exact low high eLow, first, second]
  rw [dif_neg (by omega)]

theorem mantissa_shiftRight (em : ExtendedMantissa) (j : Nat) :
    (em >>> j).mantissa = em.mantissa / 2 ^ j := by
  induction j with
  | zero => rw [Nat.pow_zero, Nat.div_one]; rfl
  | succ j ih =>
    show (em >>> j).mantissa / 2 = _
    rw [ih, Nat.div_div_eq_div_mul, Nat.pow_succ]

theorem div_pow_mem_binade {q j : Nat} (log : q.log2 = 52 + j) :
    2 ^ 52 ≤ q / 2 ^ j ∧ q / 2 ^ j < 2 ^ 53 := by
  have nonzero : q ≠ 0 := by
    rintro rfl
    simp at log
    omega
  have low := Nat.log2_self_le nonzero
  have high : q < 2 ^ (q.log2 + 1) := Nat.lt_log2_self
  rw [log] at low high
  constructor
  · rw [Nat.le_div_iff_mul_le (Nat.two_pow_pos j), ← Nat.pow_add]
    exact low
  · rw [Nat.div_lt_iff_lt_mul (Nat.two_pow_pos j), ← Nat.pow_add]
    rwa [show 52 + j + 1 = 53 + j by omega] at high

/-- Rounding a mantissa `q` of `53 + j` bits: the result, scaled back by the `j` bits cut and
by the carry `c`, exceeds `q` by at most one unit of the cut. -/
theorem roundWithAccuracy_le (q j : Nat) (e : Int) (acc : Accuracy) (log : q.log2 = 52 + j)
    (eLow : -1074 ≤ e + j) :
    ∃ M c : Nat, ∃ pos : 0 < M,
      roundWithAccuracy .binary64 .positive q e acc = .finite .positive M (e + j + c) pos ∧
      2 ^ 52 ≤ M ∧ M < 2 ^ 53 ∧ c ≤ 1 ∧ M * 2 ^ c * 2 ^ j ≤ q + 2 ^ j := by
  have first := shiftToTargetExponent_of_log2 q j e acc log eLow
  obtain ⟨cutLow, cutHigh⟩ := div_pow_mem_binade log
  set em := ExtendedMantissa.ofMantissaAndAccuracy q acc >>> j with em_def
  have cut : em.mantissa = q / 2 ^ j := by
    rw [em_def, mantissa_shiftRight, mantissa_ofMantissaAndAccuracy]
  obtain ⟨up, upByOne⟩ := roundedMantissa_bounds em
  rw [cut] at up upByOne
  -- scaled back, the rounded mantissa exceeds `q` by at most one unit of the cut
  have overshoot : em.roundedMantissa * 2 ^ j ≤ q + 2 ^ j :=
    calc em.roundedMantissa * 2 ^ j ≤ (q / 2 ^ j + 1) * 2 ^ j := Nat.mul_le_mul_right _ upByOne
      _ = q / 2 ^ j * 2 ^ j + 2 ^ j := Nat.succ_mul _ _
      _ ≤ q + 2 ^ j := Nat.add_le_add_right (Nat.div_mul_le_self q _) _
  by_cases fits : em.roundedMantissa < 2 ^ 53
  · -- no carry: the rounded mantissa stands at the exponent of the cut
    have second := shiftToTargetExponent_of_log2 em.roundedMantissa 0 (e + j) .exact
      (log2_of_bounds (by omega) fits) (by omega)
    refine ⟨_, 0, _, roundWithAccuracy_eq_finite q e acc first second
      (by rw [mantissa_shiftRight_zero, mantissa_ofMantissaAndAccuracy]; omega), ?_⟩
    rw [mantissa_shiftRight_zero, mantissa_ofMantissaAndAccuracy, Nat.pow_zero, Nat.mul_one]
    exact ⟨by omega, fits, by omega, overshoot⟩
  · -- a carry to `2^53`: one more bit is cut and the exponent moves up by one
    have carry : em.roundedMantissa = 2 ^ 53 := by omega
    have second := shiftToTargetExponent_of_log2 em.roundedMantissa 1 (e + j) .exact
      (by rw [carry, Nat.log2_two_pow]) (by omega)
    refine ⟨_, 1, _, roundWithAccuracy_eq_finite q e acc first second
      (by rw [mantissa_shiftRight_one, mantissa_ofMantissaAndAccuracy, carry]; decide), ?_⟩
    rw [mantissa_shiftRight_one, mantissa_ofMantissaAndAccuracy, carry]
    refine ⟨by decide, by decide, le_refl 1, ?_⟩
    calc 2 ^ 53 / 2 * 2 ^ 1 * 2 ^ j = 2 ^ 53 * 2 ^ j := by norm_num
      _ ≤ q + 2 ^ j := carry ▸ overshoot

/-- Rounding a quotient mantissa of `[2^52, 2^54 - 3]` gives a normal mantissa, at the
quotient's exponent or one above, and at the quotient's exponent unless the quotient is
within one of `2^53`. -/
theorem roundWithAccuracy_quotient (q : Nat) (e : Int) (acc : Accuracy) (low : 2 ^ 52 ≤ q)
    (high : q ≤ 2 ^ 54 - 3) (eLow : -1074 ≤ e) :
    ∃ M E, ∃ pos : 0 < M, roundWithAccuracy .binary64 .positive q e acc = .finite .positive M E pos ∧
      2 ^ 52 ≤ M ∧ M < 2 ^ 53 ∧ e ≤ E ∧ E ≤ e + 1 ∧ (q < 2 ^ 53 - 1 → E = e) := by
  have logLow : 52 ≤ q.log2 := (Nat.le_log2 (by omega)).mpr low
  have logHigh : q.log2 < 54 := (Nat.log2_lt (by omega)).mpr (by omega)
  have narrow : q < 2 ^ 53 - 1 → q.log2 - 52 = 0 := fun below => by
    have := (Nat.log2_lt (by omega)).mpr (show q < 2 ^ 53 by omega)
    omega
  have cut : q.log2 - 52 ≤ 1 := by omega
  obtain ⟨M, c, pos, round, mLow, mHigh, carry, overshoot⟩ :=
    roundWithAccuracy_le q (q.log2 - 52) e acc (by omega) (by omega)
  generalize q.log2 - 52 = j at round overshoot narrow cut
  -- a mantissa of at least `2^52` leaves no room for a carry on top of a cut bit
  have oneStep : c + j ≤ 1 := by
    by_contra both
    obtain ⟨rfl, rfl⟩ : c = 1 ∧ j = 1 := by omega
    omega
  -- nor for a carry out of a quotient below `2^53 - 1`, where nothing is cut
  have stays : q < 2 ^ 53 - 1 → c + j = 0 := by
    intro below
    obtain rfl := narrow below
    by_contra carried
    obtain rfl : c = 1 := by omega
    omega
  refine ⟨M, e + j + c, pos, round, mLow, mHigh, by omega, by omega, fun below => ?_⟩
  have := stays below
  omega

/-! ## Natural numbers -/

theorem scaled_mem_binade {n k : Nat} (low : 2 ^ k ≤ n) (high : n < 2 ^ (k + 1)) (small : k ≤ 52) :
    2 ^ 52 ≤ n * 2 ^ (52 - k) ∧ n * 2 ^ (52 - k) < 2 ^ 53 := by
  have split : 2 ^ 52 = 2 ^ k * 2 ^ (52 - k) := by rw [← Nat.pow_add, Nat.add_sub_cancel' small]
  have split' : 2 ^ 53 = 2 ^ (k + 1) * 2 ^ (52 - k) := by
    rw [← Nat.pow_add, Nat.add_right_comm, Nat.add_sub_cancel' small]
  exact ⟨split ▸ Nat.mul_le_mul_right _ low, split' ▸ Nat.mul_lt_mul_of_pos_right high (Nat.two_pow_pos _)⟩

theorem normalized_mem_binade {n : Nat} (pos : 0 < n) (small : n < 2 ^ 53) :
    n.log2 ≤ 52 ∧ 2 ^ 52 ≤ n * 2 ^ (52 - n.log2) ∧ n * 2 ^ (52 - n.log2) < 2 ^ 53 := by
  have bits : n.log2 < 53 := (Nat.log2_lt (Nat.ne_of_gt pos)).mpr small
  exact ⟨by omega, scaled_mem_binade (Nat.log2_self_le (Nat.ne_of_gt pos)) Nat.lt_log2_self (by omega)⟩

theorem ofNat_binary64 {n : Nat} (pos : 0 < n) (small : n < 2 ^ 53) :
    UnpackedFloat.ofNat .binary64 n =
      .finite .positive (n * 2 ^ (52 - n.log2)) (n.log2 - 52 : Int)
        (Nat.mul_pos pos (Nat.two_pow_pos _)) := by
  obtain ⟨k52, mLow, mHigh⟩ := normalized_mem_binade pos small
  have exact := roundWithAccuracy_exact (n * 2 ^ (52 - n.log2)) 0 (n.log2 - 52 : Int) mLow mHigh (by omega)
  simp only [Nat.pow_zero, Nat.mul_one, Int.natCast_zero, Int.sub_zero] at exact
  simp only [UnpackedFloat.ofNat, UnpackedFloat.ofInt, UnpackedFloat.normalize]
  rw [show compare (n : Int) 0 = .gt from by simp [Int.compare_eq_gt]; omega]
  simp only [UnpackedFloat.round, Float.Model.totalExponent, UnpackedFloat.decreaseExponent,
    Int.toNat_natCast]
  rw [targetExponent_binary64 _ (by omega), Nat.shiftLeft_eq,
    show (0 - (↑n.log2 + 1 + 0 - 53 : Int)).toNat = 52 - n.log2 by omega,
    show (0 - ((52 - n.log2 : Nat) : Int)) = (n.log2 - 52 : Int) by omega]
  exact exact

theorem unpack_one : (Float.ofBits 0x3FF0000000000000).toModel.unpack =
    .finite .positive (2 ^ 52) (-52) (Nat.two_pow_pos 52) := by rfl

theorem floatOfNat_eq {n : Nat} (small : n < 2 ^ 53) :
    Float.ofNat n = n.toUInt64.toFloat * Float.ofBits 0x3FF0000000000000 := by
  unfold Float.ofNat
  show Float.ofScientific n false 0 = _
  unfold Float.ofScientific
  rw [dif_pos ⟨small, by decide⟩]
  rfl

/-- A positive natural number below `2^53` converts exactly: its bits, shifted to the top of
a 53-bit mantissa. -/
theorem unpack_floatOfNat {n : Nat} (pos : 0 < n) (small : n < 2 ^ 53) :
    (Float.ofNat n).toModel.unpack =
      .finite .positive (n * 2 ^ (52 - n.log2)) (n.log2 - 52 : Int)
        (Nat.mul_pos pos (Nat.two_pow_pos _)) := by
  obtain ⟨k52, mLow, mHigh⟩ := normalized_mem_binade pos small
  have word : (n.toUInt64.toFloat).toModel.unpack =
      .finite .positive (n * 2 ^ (52 - n.log2)) (n.log2 - 52 : Int)
        (Nat.mul_pos pos (Nat.two_pow_pos _)) := by
    show (Float.Model.pack (UnpackedFloat.ofUInt64 .binary64 n.toUInt64)).unpack = _
    rw [model_unpack_pack, UnpackedFloat.ofUInt64,
      UInt64.toNat_ofNat_of_lt' (Nat.lt_trans small (by decide)),
      ofNat_binary64 pos small, unpack_pack_normal _ _ _ mLow mHigh (by omega) (by omega)]
  rw [floatOfNat_eq small]
  show (Float.Model.pack (UnpackedFloat.mul .binary64 (n.toUInt64.toFloat).toModel.unpack
    (Float.ofBits 0x3FF0000000000000).toModel.unpack)).unpack = _
  rw [word, unpack_one]
  simp only [UnpackedFloat.mul]
  rw [show (n.log2 - 52 : Int) + -52 = (n.log2 - 52 : Int) - ((52 : Nat) : Int) by omega,
    show Sign.positive * Sign.positive = Sign.positive from rfl,
    roundWithAccuracy_exact _ 52 _ mLow mHigh (by omega), model_unpack_pack,
    unpack_pack_normal _ _ _ mLow mHigh (by omega) (by omega)]

/-! ## Division -/

/-- Two normal mantissas divide with 53 more bits, so the quotient has 53 or 54 bits. -/
theorem divCore_normal (m₁ m₂ : Nat) (e₁ e₂ : Int) (log₁ : m₁.log2 = 52) (log₂ : m₂.log2 = 52)
    (eLow : -1021 ≤ e₁ - e₂) :
    divCore .binary64 m₁ e₁ m₂ e₂ =
      (m₁ * 2 ^ 53 / m₂, e₁ - e₂ - 53, accuracyOfFraction (m₁ * 2 ^ 53 % m₂) m₂) := by
  simp only [UnpackedFloat.divCore, Float.Model.totalExponent, log₁, log₂]
  rw [targetExponent_binary64 _ (by omega)]
  have target : min (e₁ - e₂) (((52 : Nat) : Int) + 1 + e₁ - (((52 : Nat) : Int) + 1 + e₂) - 53) =
      e₁ - e₂ - 53 := by omega
  have shift : (e₁ - e₂ - (e₁ - e₂ - 53)).toNat = 53 := by omega
  rw [target, shift, Nat.shiftLeft_eq]

/-- The quotient of two positive normal doubles is a positive normal double whose exponent is
`e₁ - e₂ - 53` or one more, and exactly `e₁ - e₂ - 53` when the quotient mantissa is not
within one of `2^53`. -/
theorem unpack_div_normal {x y : Float} {m₁ m₂ : Nat} {e₁ e₂ : Int} {p₁ : 0 < m₁} {p₂ : 0 < m₂}
    (hx : x.toModel.unpack = .finite .positive m₁ e₁ p₁)
    (hy : y.toModel.unpack = .finite .positive m₂ e₂ p₂)
    (low₁ : 2 ^ 52 ≤ m₁) (high₁ : m₁ < 2 ^ 53) (low₂ : 2 ^ 52 ≤ m₂) (high₂ : m₂ < 2 ^ 53)
    (quot : m₁ * 2 ^ 53 / m₂ ≤ 2 ^ 54 - 3) (eLow : -1021 ≤ e₁ - e₂) (eHigh : e₁ - e₂ ≤ 1023) :
    ∃ M E, ∃ pos : 0 < M, (x / y).toModel.unpack = .finite .positive M E pos ∧
      2 ^ 52 ≤ M ∧ M < 2 ^ 53 ∧ e₁ - e₂ - 53 ≤ E ∧ E ≤ e₁ - e₂ - 52 ∧
      (m₁ * 2 ^ 53 / m₂ < 2 ^ 53 - 1 → E = e₁ - e₂ - 53) := by
  have qLow : 2 ^ 52 ≤ m₁ * 2 ^ 53 / m₂ := by
    rw [Nat.le_div_iff_mul_le p₂]
    calc 2 ^ 52 * m₂ ≤ 2 ^ 52 * 2 ^ 53 := Nat.mul_le_mul_left _ (Nat.le_of_lt high₂)
      _ ≤ m₁ * 2 ^ 53 := Nat.mul_le_mul_right _ low₁
  obtain ⟨M, E, pos, round, mLow, mHigh, eAbove, eBelow, exact⟩ :=
    roundWithAccuracy_quotient _ (e₁ - e₂ - 53) (accuracyOfFraction (m₁ * 2 ^ 53 % m₂) m₂)
      qLow quot (by omega)
  refine ⟨M, E, pos, ?_, mLow, mHigh, eAbove, by omega, exact⟩
  show (Float.Model.pack (UnpackedFloat.div .binary64 x.toModel.unpack y.toModel.unpack)).unpack = _
  rw [model_unpack_pack, hx, hy]
  simp only [UnpackedFloat.div,
    divCore_normal m₁ m₂ e₁ e₂ (log2_of_bounds low₁ high₁) (log2_of_bounds low₂ high₂) eLow]
  rw [show Sign.positive / Sign.positive = Sign.positive from rfl, round,
    unpack_pack_normal M E pos mLow mHigh (by omega) (by omega)]

/-! ## Order -/

theorem lt_iff_compare (x y : Float) :
    x < y ↔ UnpackedFloat.compare x.toModel.unpack y.toModel.unpack = some .lt := by
  show decide (x.toModel.unpack.lt y.toModel.unpack = true) = true ↔ _
  simp only [UnpackedFloat.lt, beq_iff_eq, decide_eq_true_eq]

theorem le_iff_compare (x y : Float) :
    x ≤ y ↔ (UnpackedFloat.compare x.toModel.unpack y.toModel.unpack).any Ordering.isLE = true := by
  show decide (x.toModel.unpack.le y.toModel.unpack = true) = true ↔ _
  simp only [UnpackedFloat.le]
  exact decide_eq_true_iff

/-- Positive normal doubles compare by exponent first. -/
theorem compare_finite_of_lt {m₁ m₂ : Nat} {e₁ e₂ : Int} {p₁ : 0 < m₁} {p₂ : 0 < m₂} (h : e₁ < e₂) :
    UnpackedFloat.compare (.finite .positive m₁ e₁ p₁) (.finite .positive m₂ e₂ p₂) = some .lt := by
  show some ((compare e₁ e₂).then (compare m₁ m₂)) = some .lt
  rw [Int.compare_eq_lt.mpr h]
  rfl

theorem unpack_oneFloat : (1 : Float).toModel.unpack =
    .finite .positive (2 ^ 52) (-52) (Nat.two_pow_pos 52) := by rfl

theorem unpack_zeroFloat : (0 : Float).toModel.unpack = .zero .positive := by rfl

theorem zero_le_of_unpack {x : Float} {m : Nat} {e : Int} {pos : 0 < m}
    (unpacked : x.toModel.unpack = .finite .positive m e pos) : 0 ≤ x := by
  rw [le_iff_compare, unpack_zeroFloat, unpacked]
  rfl

theorem lt_one_of_unpack {x : Float} {m : Nat} {e : Int} {pos : 0 < m}
    (unpacked : x.toModel.unpack = .finite .positive m e pos) (below : e < -52) : x < 1 := by
  rw [lt_iff_compare, unpacked, unpack_oneFloat]
  exact compare_finite_of_lt below

end Binary64

end SwapDesk
