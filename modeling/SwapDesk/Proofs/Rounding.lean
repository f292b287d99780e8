import Mathlib
import SwapDesk.Proofs.Binary64

/-! # Rounding to the doubles

Every operation of the `Float` model shifts a mantissa to 53 bits, rounds what is cut to nearest
and packs the result. Whatever is cut, the result is the exact number rounded to the grid of
doubles: `roundWithAccuracy_isRounding` on the rationals, `rounds_roundWithAccuracy` against the
finite doubles in their own order.
-/

namespace SwapDesk
namespace Binary64
open Float.Model Float.Model.UnpackedFloat

/-! ## Mantissas that stand for exact numbers -/

/-- What a mantissa with its round and sticky bits says of the exact value `x`, in units of its
last place: the round bit says whether `x` lies at or above the half, the sticky bit whether it
lies off the point the other bits name. -/
def Represents (em : ExtendedMantissa) (x : ℚ) : Prop :=
  match em.roundBit, em.stickyBit with
  | false, false => x = em.mantissa
  | false, true => em.mantissa < x ∧ x < em.mantissa + 1 / 2
  | true, false => x = em.mantissa + 1 / 2
  | true, true => em.mantissa + 1 / 2 < x ∧ x < em.mantissa + 1

theorem Represents.shiftRightOne {em : ExtendedMantissa} {x : ℚ} (h : Represents em x) :
    Represents em.shiftRightOne (x / 2) := by
  obtain ⟨m, r, s⟩ := em
  obtain ⟨half, bit, bitLe, rfl⟩ : ∃ half bit, bit ≤ 1 ∧ m = 2 * half + bit :=
    ⟨m / 2, m % 2, by omega, by omega⟩
  have quotient : (2 * half + bit) / 2 = half := by omega
  have parity : ((2 * half + bit) % 2 != 0) = decide (bit = 1) := by
    rcases Nat.le_one_iff_eq_zero_or_eq_one.mp bitLe with rfl | rfl <;> simp
  simp only [ExtendedMantissa.shiftRightOne, quotient, parity]
  rcases Nat.le_one_iff_eq_zero_or_eq_one.mp bitLe with rfl | rfl <;>
    cases r <;> cases s <;> simp only [Represents] at h ⊢ <;> push_cast at h ⊢ <;> grind

theorem Represents.shiftRight {em : ExtendedMantissa} {x : ℚ} (h : Represents em x) (n : ℕ) :
    Represents (em >>> n) (x / 2 ^ n) := by
  induction n with
  | zero =>
    rw [pow_zero, div_one]
    exact h
  | succ n ih =>
    rw [pow_succ, ← div_div]
    exact ih.shiftRightOne

theorem Represents.bounds {em : ExtendedMantissa} {x : ℚ} (h : Represents em x) :
    (em.mantissa : ℚ) ≤ x ∧ x < em.mantissa + 1 := by
  obtain ⟨m, r, s⟩ := em
  cases r <;> cases s <;> simp only [Represents] at h <;> grind

theorem Represents.rounded_bounds {em : ExtendedMantissa} {x : ℚ} (h : Represents em x) :
    x < em.roundedMantissa + 1 ∧ (em.roundedMantissa : ℚ) - 1 < x := by
  obtain ⟨m, r, s⟩ := em
  have parity : ((m % 2 : ℕ) : ℚ) ≤ 1 := by exact_mod_cast (by omega : m % 2 ≤ 1)
  cases r <;> cases s <;> simp only [Represents] at h <;>
    simp only [ExtendedMantissa.roundedMantissa, ExtendedMantissa.accuracy,
      Accuracy.roundToNearestEven] <;> push_cast <;> grind

theorem Represents.floor_le {em : ExtendedMantissa} {x : ℚ} (h : Represents em x) :
    ⌊x⌋ ≤ em.roundedMantissa := by
  rw [Int.floor_le_iff]
  exact_mod_cast h.rounded_bounds.1

theorem Represents.le_ceil {em : ExtendedMantissa} {x : ℚ} (h : Represents em x) :
    (em.roundedMantissa : ℤ) ≤ ⌈x⌉ := by
  rw [Int.le_ceil_iff]
  exact_mod_cast h.rounded_bounds.2

theorem represents_exact (m : ℕ) : Represents (.ofMantissaAndAccuracy m .exact) m := rfl

/-- A quotient `q` with remainder `r` of a division by `d` stands for `q + r / d`. -/
theorem represents_fraction (q r d : ℕ) (below : r < d) :
    Represents (.ofMantissaAndAccuracy q (accuracyOfFraction r d)) (q + r / d) := by
  have dPos : (0 : ℚ) < d := by exact_mod_cast (by omega : 0 < d)
  have fraction : (r : ℚ) / d < 1 := by
    rw [div_lt_one dPos]
    exact_mod_cast below
  unfold accuracyOfFraction
  by_cases zero : r = 0
  · simp [zero, represents_exact]
  · have pos : (0 : ℚ) < r / d := div_pos (by exact_mod_cast Nat.pos_of_ne_zero zero) dPos
    rw [if_neg zero]
    rcases lt_trichotomy (2 * r) d with less | equal | greater
    · rw [Nat.compare_eq_lt.mpr less]
      have : (r : ℚ) / d < 1 / 2 := by
        rw [div_lt_iff₀ dPos]
        have : (2 * r : ℚ) < d := by exact_mod_cast less
        linarith
      show (q : ℚ) < q + r / d ∧ (q : ℚ) + r / d < q + 1 / 2
      exact ⟨by linarith, by linarith⟩
    · rw [Nat.compare_eq_eq.mpr equal]
      have : (r : ℚ) / d = 1 / 2 := by
        rw [div_eq_iff dPos.ne']
        have : (2 * r : ℚ) = d := by exact_mod_cast equal
        linarith
      show (q : ℚ) + r / d = q + 1 / 2
      rw [this]
    · rw [Nat.compare_eq_gt.mpr greater]
      have : (1 : ℚ) / 2 < r / d := by
        rw [lt_div_iff₀ dPos]
        have : (d : ℚ) < 2 * r := by exact_mod_cast greater
        linarith
      show (q : ℚ) + 1 / 2 < q + r / d ∧ (q : ℚ) + r / d < q + 1
      exact ⟨by linarith, by linarith⟩

/-! ## The grid of doubles -/

/-- The magnitudes of doubles, and of the numbers beyond the largest of them on the same grid:
`M · 2^E` with a mantissa of at most 53 bits and an exponent of at least `-1074`. -/
def OnGrid (q : ℚ) : Prop := ∃ M : ℕ, ∃ E : ℤ, M < 2 ^ 53 ∧ -1074 ≤ E ∧ |q| = M * 2 ^ E

/-- `r` is `v` rounded to the grid of doubles: no point of the grid lies strictly between
them, so every point at most `v` is at most `r` and every point at least `v` is at least `r`. -/
def IsRounding (r v : ℚ) : Prop := ∀ q, OnGrid q → (q ≤ v → q ≤ r) ∧ (v ≤ q → r ≤ q)

theorem two_zpow_pos (t : ℤ) : (0 : ℚ) < 2 ^ t := zpow_pos (by norm_num) t

/-- A point of the grid at an exponent of at least `t` is a whole multiple of `2^t`. -/
theorem exists_mul_two_zpow {M : ℕ} {E t : ℤ} (le : t ≤ E) :
    ∃ j : ℕ, (M : ℚ) * 2 ^ E = j * 2 ^ t := by
  refine ⟨M * 2 ^ (E - t).toNat, ?_⟩
  have split : (2 : ℚ) ^ E = 2 ^ (E - t).toNat * 2 ^ t := by
    rw [← zpow_natCast, ← zpow_add₀ (by norm_num)]
    congr 1
    omega
  rw [split]
  push_cast
  ring

/-- A point of the grid below the exponent `t` lies below `2^52 · 2^t`. -/
theorem lt_of_exponent_lt {M : ℕ} {E t : ℤ} (small : M < 2 ^ 53) (lt : E < t) :
    (M : ℚ) * 2 ^ E < 2 ^ 52 * 2 ^ t := by
  have mantissa : (M : ℚ) < 2 ^ 53 := by exact_mod_cast small
  have exponent : (2 : ℚ) ^ E ≤ 2 ^ (t - 1) := zpow_le_zpow_right₀ (by norm_num) (by omega)
  have half : (2 : ℚ) ^ (t - 1) = 2 ^ t / 2 := by
    rw [zpow_sub₀ (by norm_num), zpow_one]
  calc (M : ℚ) * 2 ^ E < 2 ^ 53 * 2 ^ E := mul_lt_mul_of_pos_right mantissa (two_zpow_pos E)
    _ ≤ 2 ^ 53 * 2 ^ (t - 1) := mul_le_mul_of_nonneg_left exponent (by positivity)
    _ = 2 ^ 52 * 2 ^ t := by rw [half]; ring

/-- **Grid lemma.** Rounding `y · 2^t` to a whole multiple `n · 2^t` between `⌊y⌋` and `⌈y⌉`
is a rounding to the grid, as long as `2^t` is the spacing of the grid there: `t` is the least
exponent, or `y` has 53 bits before the point. -/
theorem isRounding_mul_two_zpow {y : ℚ} {n : ℤ} {t : ℤ} (floor_le : ⌊y⌋ ≤ n) (le_ceil : n ≤ ⌈y⌉)
    (nonneg : 0 ≤ y) (spacing : t = -1074 ∨ 2 ^ 52 ≤ y) :
    IsRounding (n * 2 ^ t) (y * 2 ^ t) := by
  have scale := two_zpow_pos t
  have nNonneg : (0 : ℚ) ≤ n := by exact_mod_cast le_trans (Int.floor_nonneg.mpr nonneg) floor_le
  intro q ⟨M, E, small, eLow, magnitude⟩
  rcases lt_or_ge q 0 with negative | nonnegative
  · -- a negative point lies below both
    have : (0 : ℚ) ≤ y * 2 ^ t := by positivity
    exact ⟨fun _ => by nlinarith, fun above => absurd above (by linarith)⟩
  rw [abs_of_nonneg nonnegative] at magnitude
  subst magnitude
  rcases le_or_gt t E with coarser | finer
  · -- on the grid of spacing `2^t` the point is a whole multiple `j`
    obtain ⟨j, point⟩ := exists_mul_two_zpow (M := M) coarser
    rw [point]
    constructor
    · intro below
      have jLe : (j : ℚ) ≤ y := le_of_mul_le_mul_right below scale
      have : (j : ℤ) ≤ n := le_trans (Int.le_floor.mpr (by exact_mod_cast jLe)) floor_le
      exact mul_le_mul_of_nonneg_right (by exact_mod_cast this) scale.le
    · intro above
      have leJ : y ≤ j := le_of_mul_le_mul_right above scale
      have : n ≤ (j : ℤ) := le_trans le_ceil (Int.ceil_le.mpr (by exact_mod_cast leJ))
      exact mul_le_mul_of_nonneg_right (by exact_mod_cast this) scale.le
  · -- a finer point lies below the binade of `y`, which then has 53 bits
    have wide : (2 : ℚ) ^ 52 ≤ y := by
      rcases spacing with least | wide
      · omega
      · exact wide
    have below := lt_of_exponent_lt small finer
    have nWide : (2 : ℚ) ^ 52 ≤ n := by
      have : (2 ^ 52 : ℤ) ≤ n := le_trans (Int.le_floor.mpr (by exact_mod_cast wide)) floor_le
      exact_mod_cast this
    constructor
    · intro _
      calc (M : ℚ) * 2 ^ E ≤ 2 ^ 52 * 2 ^ t := below.le
        _ ≤ n * 2 ^ t := mul_le_mul_of_nonneg_right nWide scale.le
    · intro above
      have : (2 : ℚ) ^ 52 * 2 ^ t ≤ y * 2 ^ t := mul_le_mul_of_nonneg_right wide scale.le
      linarith

theorem isRounding_self (q : ℚ) : IsRounding q q := fun _ _ => ⟨id, id⟩

theorem IsRounding.neg {r v : ℚ} (rounding : IsRounding r v) : IsRounding (-r) (-v) := by
  intro q onGrid
  have flipped : OnGrid (-q) := by
    obtain ⟨M, E, small, eLow, magnitude⟩ := onGrid
    exact ⟨M, E, small, eLow, by rw [abs_neg, magnitude]⟩
  obtain ⟨below, above⟩ := rounding (-q) flipped
  exact ⟨fun le => by linarith [above (by linarith)], fun le => by linarith [below (by linarith)]⟩

/-! ## Unpacked doubles as numbers -/

def signed : Sign → ℚ → ℚ
  | .positive, q => q
  | .negative, q => -q

/-- The rational number a finite or zero unpacked double stands for; infinities and `NaN` stand
for none, and read as zero. -/
def toRat : UnpackedFloat → ℚ
  | .zero _ => 0
  | .finite s m e _ => signed s (m * 2 ^ e)
  | _ => 0

/-- An unpacked double in the form `unpack` gives and rounding produces: a mantissa of at most 53
bits, with all 53 unless the exponent is the least one. The exponent may still be too large to
pack, which makes an infinity. -/
def Canonical : UnpackedFloat → Prop
  | .zero _ => True
  | .finite _ m e _ => m < 2 ^ 53 ∧ -1074 ≤ e ∧ (2 ^ 52 ≤ m ∨ e = -1074)
  | _ => False

theorem canonical_neg {u : UnpackedFloat} (canonical : Canonical u) : Canonical u.neg := by
  cases u <;> first | exact canonical.elim | exact canonical

theorem toRat_neg (u : UnpackedFloat) : toRat u.neg = -toRat u := by
  cases u with
  | zero => simp [UnpackedFloat.neg, toRat]
  | finite s m e p =>
    cases s
    · exact (neg_neg _).symm
    · rfl
  | infinity => simp [UnpackedFloat.neg, toRat]
  | notANumber => simp [UnpackedFloat.neg, toRat]

/-! ## Rounding a mantissa -/

/-- The exponent a result of `m · 2^e` is rounded at: 53 bits below its leading bit, and never
below the least exponent `-1074`. -/
theorem targetExponent_eq (m : ℕ) (e : ℤ) :
    Format.binary64.targetExponent (totalExponent m e) = max ((m.log2 : ℤ) + e - 52) (-1074) := by
  simp only [Format.targetExponent, totalExponent, Format.mantissaBits, Format.minExponent]
  omega

/-- A mantissa of at most 53 bits needs no second shift. -/
theorem shiftToTargetExponent_small (r : ℕ) (e : ℤ) (small : r < 2 ^ 53) (eLow : -1074 ≤ e) :
    shiftToTargetExponent .binary64 r e .exact = (⟨r, false, false⟩, e) := by
  have bits : r.log2 ≤ 52 := by
    rcases Nat.eq_zero_or_pos r with rfl | pos
    · simp
    · have := (Nat.log2_lt (Nat.ne_of_gt pos)).mpr small
      omega
  have none : (Format.binary64.targetExponent (totalExponent r e) - e).toNat = 0 := by
    rw [targetExponent_eq]
    omega
  simp only [shiftToTargetExponent, shiftToExponent, none, Int.natCast_zero, Int.add_zero]
  rfl

/-- A carry to `2^53` is shifted back to `2^52`, one exponent up. -/
theorem shiftToTargetExponent_carry (e : ℤ) (eLow : -1074 ≤ e) :
    shiftToTargetExponent .binary64 (2 ^ 53) e .exact = (⟨2 ^ 52, false, false⟩, e + 1) := by
  rw [shiftToTargetExponent_of_log2 (2 ^ 53) 1 e .exact (by rw [Nat.log2_two_pow]) (by omega)]
  rfl

theorem roundWithAccuracy_of_shifts (s : Sign) (m : ℕ) (e : ℤ) (acc : Accuracy)
    {em₁ em₂ : ExtendedMantissa} {e₁ e₂ : ℤ}
    (first : shiftToTargetExponent .binary64 m e acc = (em₁, e₁))
    (second : shiftToTargetExponent .binary64 em₁.roundedMantissa e₁ .exact = (em₂, e₂)) :
    roundWithAccuracy .binary64 s m e acc =
      if h : em₂.mantissa = 0 then .zero s else .finite s em₂.mantissa e₂ (Nat.pos_of_ne_zero h) := by
  simp only [roundWithAccuracy, first, second]

/-- **Rounding lemma.** Rounding a mantissa `m` at the exponent `e`, with its accuracy standing
for the exact `x`, gives a canonical double that is `x · 2^e` rounded to the grid. -/
theorem roundWithAccuracy_isRounding (m : ℕ) (e : ℤ) (acc : Accuracy) {x : ℚ}
    (represents : Represents (.ofMantissaAndAccuracy m acc) x)
    (eLow : e ≤ Format.binary64.targetExponent (totalExponent m e)) :
    Canonical (roundWithAccuracy .binary64 .positive m e acc) ∧
      IsRounding (toRat (roundWithAccuracy .binary64 .positive m e acc)) (x * 2 ^ e) := by
  set t := Format.binary64.targetExponent (totalExponent m e) with t_def
  set k := (t - e).toNat
  have target := targetExponent_eq m e
  rw [← t_def] at target
  have first : shiftToTargetExponent .binary64 m e acc =
      (ExtendedMantissa.ofMantissaAndAccuracy m acc >>> k, t) := by
    show (_, e + k) = _
    congr 1
    omega
  set em := ExtendedMantissa.ofMantissaAndAccuracy m acc >>> k
  have shifted : Represents em (x / 2 ^ k) := represents.shiftRight k
  have cut : em.mantissa = m / 2 ^ k := by
    rw [mantissa_shiftRight, mantissa_ofMantissaAndAccuracy]
  -- the cut mantissa has at most 53 bits, and all 53 above the least exponent
  have cutSmall : m / 2 ^ k < 2 ^ 53 := by
    rw [Nat.div_lt_iff_lt_mul (Nat.two_pow_pos k), ← Nat.pow_add]
    exact lt_of_lt_of_le Nat.lt_log2_self (Nat.pow_le_pow_right (by norm_num) (by omega))
  have spacing : t = -1074 ∨ 2 ^ 52 ≤ x / 2 ^ k := by
    by_cases least : t = -1074
    · exact .inl least
    · right
      have wide := (div_pow_mem_binade (q := m) (j := k) (by omega)).1
      rw [← cut] at wide
      exact le_trans (by exact_mod_cast wide) shifted.bounds.1
  have nonneg : 0 ≤ x / 2 ^ k := le_trans (Nat.cast_nonneg _) shifted.bounds.1
  have exact : x / 2 ^ k * 2 ^ t = x * 2 ^ e := by
    have : (2 : ℚ) ^ t = 2 ^ e * 2 ^ k := by
      rw [← zpow_natCast, ← zpow_add₀ (by norm_num)]
      congr 1
      omega
    rw [this]
    field_simp
  have rounding := isRounding_mul_two_zpow shifted.floor_le shifted.le_ceil nonneg spacing
  rw [exact] at rounding
  obtain ⟨up, upByOne⟩ := roundedMantissa_bounds em
  have floorLe := shifted.floor_le
  rcases Nat.lt_or_ge em.roundedMantissa (2 ^ 53) with fits | carry
  · -- no carry: the rounded mantissa stands at the target exponent
    rw [roundWithAccuracy_of_shifts .positive m e acc first
      (shiftToTargetExponent_small _ t fits (by omega))]
    have canonical : 2 ^ 52 ≤ em.roundedMantissa ∨ t = -1074 := by
      rcases spacing with least | wide
      · exact .inr least
      · left
        have : (2 ^ 52 : ℤ) ≤ em.roundedMantissa :=
          le_trans (Int.le_floor.mpr (by exact_mod_cast wide)) floorLe
        exact_mod_cast this
    split
    · rename_i zero
      have vanished : em.roundedMantissa = 0 := zero
      refine ⟨trivial, ?_⟩
      simpa [toRat, vanished] using rounding
    · exact ⟨⟨fits, by omega, canonical⟩, by simpa [toRat, signed] using rounding⟩
  · -- a carry: the mantissa `2^53` moves to `2^52`, one exponent up
    have carried : em.roundedMantissa = 2 ^ 53 := by omega
    have second : shiftToTargetExponent .binary64 em.roundedMantissa t .exact =
        (⟨2 ^ 52, false, false⟩, t + 1) := by
      rw [carried]
      exact shiftToTargetExponent_carry t (by omega)
    rw [roundWithAccuracy_of_shifts .positive m e acc first second, dif_neg (by norm_num)]
    refine ⟨⟨by norm_num, by omega, .inl le_rfl⟩, ?_⟩
    have same : ((2 ^ 52 : ℕ) : ℚ) * 2 ^ (t + 1) = ((em.roundedMantissa : ℤ) : ℚ) * 2 ^ t := by
      rw [carried, zpow_add₀ (by norm_num)]
      push_cast
      ring
    simp only [toRat, signed]
    rw [same]
    exact rounding

theorem roundWithAccuracy_negative (m : ℕ) (e : ℤ) (acc : Accuracy) :
    roundWithAccuracy .binary64 .negative m e acc =
      (roundWithAccuracy .binary64 .positive m e acc).neg := by
  simp only [roundWithAccuracy]
  split <;> rfl

/-! ## Packing -/

/-- The unpacked form of every finite double is canonical, with an exponent of at most `971`. -/
theorem unpack_finite_shape {b : BitVec 64} {s : Sign} {m : ℕ} {e : ℤ} {p : 0 < m}
    (unpacked : UnpackedFloat.unpack .binary64 b = .finite s m e p) :
    m < 2 ^ 53 ∧ -1074 ≤ e ∧ e ≤ 971 ∧ (2 ^ 52 ≤ m ∨ e = -1074) := by
  have stored := (@unpackMantissa .binary64 b).isLt
  have field := (@unpackExponent .binary64 b).isLt
  simp only [UnpackedFloat.unpack] at unpacked
  split at unpacked
  · split at unpacked <;> cases unpacked
  · rename_i notTop
    have top : (@unpackExponent .binary64 b).toNat ≠ 2047 := fun h =>
      notTop (BitVec.eq_of_toNat_eq (by rw [h]; rfl))
    split at unpacked
    · -- subnormal: the stored bits at the least exponent
      rename_i bottom
      split at unpacked
      · cases unpacked
      · cases unpacked
        rw [bottom] at *
        refine ⟨by simp only [Format.binary64] at stored; omega, ?_, ?_, .inr ?_⟩ <;> decide
    · -- normal: the hidden bit in front of the stored bits
      rename_i notBottom
      have low : (@unpackExponent .binary64 b).toNat ≠ 0 := fun h =>
        notBottom (BitVec.eq_of_toNat_eq (by rw [h]; rfl))
      cases unpacked
      simp only [Format.binary64] at stored field
      rw [BitVec.toNat_append, ← Nat.shiftLeft_add_eq_or_of_lt stored]
      simp only [Format.exponentBias, Format.binary64]
      refine ⟨?_, ?_, ?_, .inl ?_⟩ <;> simp <;> omega

theorem ofBitVec_toBitVec (s : Sign) : Sign.ofBitVec s.toBitVec = s := by
  cases s <;> rfl

theorem unpack_pack_zero (s : Sign) : (Float.Model.pack (.zero s)).unpack = .zero s := by
  cases s <;> rfl

/-- A canonical double whose exponent fits comes back from its 64 bits as it went in. -/
theorem unpack_pack_finite (s : Sign) (m : ℕ) (e : ℤ) (p : 0 < m) (small : m < 2 ^ 53)
    (eLow : -1074 ≤ e) (eHigh : e ≤ 971) (normal : 2 ^ 52 ≤ m ∨ e = -1074) :
    (Float.Model.pack (.finite s m e p)).unpack = .finite s m e p := by
  rw [model_unpack_pack]
  have bias : Format.binary64.exponentBias = 1023 := rfl
  have bits : Format.binary64.mantissaBits = 53 := rfl
  by_cases wide : 2 ^ 52 ≤ m
  · -- normal: the biased exponent field is neither all zeros nor all ones
    have log : m.log2 = 52 := log2_of_bounds wide small
    have biased : (BitVec.ofNat 11 (e + ((1023 : ℕ) : ℤ) + ((52 : ℕ) : ℤ)).toNat).toNat =
        (e + 1075).toNat := by
      rw [BitVec.toNat_ofNat]
      omega
    simp only [UnpackedFloat.pack, log, bias, bits]
    rw [if_neg (by omega)]
    simp only [UnpackedFloat.unpack, unpackMantissa_packComponents, unpackExponent_packComponents,
      unpackSign_packComponents, ofBitVec_toBitVec, if_true]
    rw [if_neg (fun h => by have := congrArg BitVec.toNat h; rw [biased] at this; simp at this; omega),
      if_neg (fun h => by have := congrArg BitVec.toNat h; rw [biased] at this; simp at this; omega)]
    simp only [toNat_one_append m wide small, biased, bias]
    congr 1
    omega
  · -- subnormal: the stored bits at the least exponent
    have least : e = -1074 := normal.resolve_left wide
    subst least
    have log : m.log2 < 52 := (Nat.log2_lt (Nat.ne_of_gt p)).mpr (by omega)
    have stored : (BitVec.ofNat 52 m).toNat = m := by
      rw [BitVec.toNat_ofNat]
      omega
    simp only [UnpackedFloat.pack, bias, bits]
    rw [if_neg (by decide), if_neg (by omega)]
    simp only [UnpackedFloat.unpack, unpackMantissa_packComponents, unpackExponent_packComponents,
      unpackSign_packComponents, ofBitVec_toBitVec]
    rw [if_neg (by decide), if_pos trivial,
      dif_neg (fun h => by have := congrArg BitVec.toNat h; rw [stored] at this; simp at this; omega)]
    simp only [stored]
    rfl

/-- A double whose exponent is too large packs to the infinity of its sign. -/
theorem unpack_pack_overflow (s : Sign) (m : ℕ) (e : ℤ) (p : 0 < m) (big : 972 ≤ e) :
    (Float.Model.pack (.finite s m e p)).unpack = .infinity s := by
  rw [model_unpack_pack]
  simp only [UnpackedFloat.pack]
  rw [if_pos (by simp only [Format.exponentBias]; omega)]
  cases s <;> rfl

/-! ## Order -/

/-- Of two canonical mantissa and exponent pairs, the one with the smaller exponent stands for
the smaller number: the other has all 53 bits. -/
theorem lt_of_exponent_lt_canonical {m₁ m₂ : ℕ} {e₁ e₂ : ℤ} (small : m₁ < 2 ^ 53)
    (normal : 2 ^ 52 ≤ m₂ ∨ e₂ = -1074) (eLow : -1074 ≤ e₁) (lt : e₁ < e₂) :
    (m₁ : ℚ) * 2 ^ e₁ < m₂ * 2 ^ e₂ := by
  have wide : (2 : ℚ) ^ 52 ≤ m₂ := by
    rcases normal with wide | least
    · exact_mod_cast wide
    · omega
  calc (m₁ : ℚ) * 2 ^ e₁ < 2 ^ 52 * 2 ^ e₂ := lt_of_exponent_lt small lt
    _ ≤ m₂ * 2 ^ e₂ := mul_le_mul_of_nonneg_right wide (two_zpow_pos e₂).le

/-- Canonical positive doubles compare by exponent first and mantissa second, which is the order
of the numbers they stand for. -/
theorem compare_then_eq {m₁ m₂ : ℕ} {e₁ e₂ : ℤ}
    (canonical₁ : m₁ < 2 ^ 53 ∧ -1074 ≤ e₁ ∧ (2 ^ 52 ≤ m₁ ∨ e₁ = -1074))
    (canonical₂ : m₂ < 2 ^ 53 ∧ -1074 ≤ e₂ ∧ (2 ^ 52 ≤ m₂ ∨ e₂ = -1074)) :
    (compare e₁ e₂).then (compare m₁ m₂) = compare ((m₁ : ℚ) * 2 ^ e₁) (m₂ * 2 ^ e₂) := by
  rcases lt_trichotomy e₁ e₂ with lt | rfl | gt
  · rw [compare_lt_iff_lt.mpr lt, compare_lt_iff_lt.mpr
      (lt_of_exponent_lt_canonical canonical₁.1 canonical₂.2.2 canonical₁.2.1 lt)]
    rfl
  · rw [Std.compare_self, Ordering.eq_then]
    have scale := two_zpow_pos e₁
    rcases lt_trichotomy m₁ m₂ with lt | rfl | gt
    · rw [compare_lt_iff_lt.mpr lt, compare_lt_iff_lt.mpr
        (mul_lt_mul_of_pos_right (by exact_mod_cast lt) scale)]
    · rw [Std.compare_self, Std.compare_self]
    · rw [compare_gt_iff_gt.mpr gt, compare_gt_iff_gt.mpr
        (mul_lt_mul_of_pos_right (by exact_mod_cast gt) scale)]
  · rw [compare_gt_iff_gt.mpr gt, compare_gt_iff_gt.mpr
      (lt_of_exponent_lt_canonical canonical₂.1 canonical₁.2.2 canonical₂.2.1 gt)]
    rfl

theorem compare_neg_neg (a b : ℚ) : compare (-a) (-b) = (compare a b).swap := by
  rcases lt_trichotomy a b with lt | rfl | gt
  · rw [compare_lt_iff_lt.mpr lt, compare_gt_iff_gt.mpr (neg_lt_neg lt)]
    rfl
  · rw [Std.compare_self, Std.compare_self]
    rfl
  · rw [compare_gt_iff_gt.mpr gt, compare_lt_iff_lt.mpr (neg_lt_neg gt)]
    rfl

/-- **Order lemma.** Canonical doubles compare as the numbers they stand for, the two zeros
alike. -/
theorem compare_canonical {u w : UnpackedFloat} (hu : Canonical u) (hw : Canonical w) :
    UnpackedFloat.compare u w = some (compare (toRat u) (toRat w)) := by
  have pos : ∀ (m : ℕ) (e : ℤ), 0 < m → (0 : ℚ) < m * 2 ^ e := fun m e p =>
    mul_pos (by exact_mod_cast p) (two_zpow_pos e)
  cases u with
  | infinity => exact hu.elim
  | notANumber => exact hu.elim
  | zero s₁ =>
    cases w with
    | infinity => exact hw.elim
    | notANumber => exact hw.elim
    | zero s₂ => simp [UnpackedFloat.compare, toRat]
    | finite s₂ m₂ e₂ p₂ =>
      cases s₂ <;> simp only [UnpackedFloat.compare, toRat, signed]
      · rw [compare_gt_iff_gt.mpr (neg_lt_zero.mpr (pos m₂ e₂ p₂))]
      · rw [compare_lt_iff_lt.mpr (pos m₂ e₂ p₂)]
  | finite s₁ m₁ e₁ p₁ =>
    cases w with
    | infinity => exact hw.elim
    | notANumber => exact hw.elim
    | zero s₂ =>
      cases s₁ <;> simp only [UnpackedFloat.compare, toRat, signed]
      · rw [compare_lt_iff_lt.mpr (neg_lt_zero.mpr (pos m₁ e₁ p₁))]
      · rw [compare_gt_iff_gt.mpr (pos m₁ e₁ p₁)]
    | finite s₂ m₂ e₂ p₂ =>
      cases s₁ <;> cases s₂ <;> simp only [UnpackedFloat.compare, toRat, signed]
      · rw [compare_neg_neg, compare_then_eq hu hw]
      · rw [compare_lt_iff_lt.mpr (by linarith [pos m₁ e₁ p₁, pos m₂ e₂ p₂])]
      · rw [compare_gt_iff_gt.mpr (by linarith [pos m₁ e₁ p₁, pos m₂ e₂ p₂])]
      · rw [compare_then_eq hu hw]

/-- A finite double unpacks to a canonical form with an exponent of at most `971`. -/
theorem canonical_unpack {f : Float} (finite : f.isFinite = true) :
    Canonical f.toModel.unpack ∧ ∀ s m e p, f.toModel.unpack = .finite s m e p → e ≤ 971 := by
  change f.toModel.unpack.isFinite = true at finite
  have shape : ∀ {s m e p}, f.toModel.unpack = .finite s m e p →
      m < 2 ^ 53 ∧ -1074 ≤ e ∧ e ≤ 971 ∧ (2 ^ 52 ≤ m ∨ e = -1074) :=
    fun unpacked => unpack_finite_shape unpacked
  generalize f.toModel.unpack = u at finite shape ⊢
  cases u with
  | infinity => cases finite
  | notANumber => cases finite
  | zero => exact ⟨trivial, fun _ _ _ _ h => by cases h⟩
  | finite s m e p =>
    obtain ⟨small, eLow, eHigh, normal⟩ := shape rfl
    exact ⟨⟨small, eLow, normal⟩, fun _ _ _ _ h => by cases h; exact eHigh⟩

theorem le_iff_toRat_le {f g : Float} (hf : f.isFinite = true) (hg : g.isFinite = true) :
    f ≤ g ↔ toRat f.toModel.unpack ≤ toRat g.toModel.unpack := by
  rw [le_iff_compare, compare_canonical (canonical_unpack hf).1 (canonical_unpack hg).1,
    Option.any_some, Std.LawfulBCmp.isLE_iff_le]

theorem lt_iff_toRat_lt {f g : Float} (hf : f.isFinite = true) (hg : g.isFinite = true) :
    f < g ↔ toRat f.toModel.unpack < toRat g.toModel.unpack := by
  rw [lt_iff_compare, compare_canonical (canonical_unpack hf).1 (canonical_unpack hg).1,
    Option.some_inj, compare_lt_iff_lt]

/-! ## Rounded results -/

/-- The value of a double, as a rational number; infinities and `NaN` read as zero. -/
def value (f : Float) : ℚ := toRat f.toModel.unpack

/-- `r` is the exact number `v` rounded to a double: every finite double at most `v` is at most
`r`, and every finite double at least `v` is at least `r`. Rounding to nearest has this
property, and so has an overflow to an infinity. -/
def Rounds (r : Float) (v : ℚ) : Prop :=
  ∀ f : Float, f.isFinite = true → (value f ≤ v → f ≤ r) ∧ (v ≤ value f → r ≤ f)

theorem onGrid_toRat {u : UnpackedFloat} (canonical : Canonical u) : OnGrid (toRat u) := by
  cases u with
  | infinity => exact canonical.elim
  | notANumber => exact canonical.elim
  | zero => exact ⟨0, 0, by norm_num, by norm_num, by simp [toRat]⟩
  | finite s m e p =>
    refine ⟨m, e, canonical.1, canonical.2.1, ?_⟩
    have : (0 : ℚ) ≤ m * 2 ^ e := by positivity
    cases s <;> simp [toRat, signed, abs_of_nonneg this]

theorem abs_value_lt {f : Float} (finite : f.isFinite = true) : |value f| < 2 ^ 1024 := by
  obtain ⟨canonical, fits⟩ := canonical_unpack finite
  unfold value
  generalize unpacked : f.toModel.unpack = u at canonical fits
  cases u with
  | infinity => exact canonical.elim
  | notANumber => exact canonical.elim
  | zero => simp [toRat]
  | finite s m e p =>
    have small : (m : ℚ) < 2 ^ 53 := by exact_mod_cast canonical.1
    have exponent : (2 : ℚ) ^ e ≤ 2 ^ (971 : ℤ) :=
      zpow_le_zpow_right₀ (by norm_num) (fits s m e p rfl)
    have bound : (m : ℚ) * 2 ^ e < 2 ^ 1024 :=
      calc (m : ℚ) * 2 ^ e < 2 ^ 53 * 2 ^ e := mul_lt_mul_of_pos_right small (two_zpow_pos e)
        _ ≤ 2 ^ 53 * 2 ^ (971 : ℤ) := mul_le_mul_of_nonneg_left exponent (by positivity)
        _ = 2 ^ 1024 := by
          rw [← zpow_natCast, ← zpow_natCast, ← zpow_add₀ (by norm_num)]
          rfl
    have : (0 : ℚ) ≤ m * 2 ^ e := by positivity
    cases s <;> simpa [toRat, signed, abs_of_nonneg this] using bound

theorem le_of_infinity_positive {f r : Float} (finite : f.isFinite = true)
    (infinite : r.toModel.unpack = .infinity .positive) : f ≤ r := by
  rw [le_iff_compare, infinite]
  have canonical := (canonical_unpack finite).1
  generalize f.toModel.unpack = u at canonical
  cases u with
  | infinity => exact canonical.elim
  | notANumber => exact canonical.elim
  | zero => rfl
  | finite => rfl

theorem le_of_infinity_negative {f r : Float} (finite : f.isFinite = true)
    (infinite : r.toModel.unpack = .infinity .negative) : r ≤ f := by
  rw [le_iff_compare, infinite]
  have canonical := (canonical_unpack finite).1
  generalize f.toModel.unpack = u at canonical
  cases u with
  | infinity => exact canonical.elim
  | notANumber => exact canonical.elim
  | zero => rfl
  | finite s => cases s <;> rfl

/-- A double that packs a canonical rounding of `v` rounds `v`. An exponent too large to pack
makes an infinity, and then `v` lies beyond every finite double, on the side of its sign. -/
theorem rounds_of_isRounding {r : Float} {u : UnpackedFloat} {v : ℚ} (canonical : Canonical u)
    (result : r.toModel.unpack = (Float.Model.pack u).unpack) (rounding : IsRounding (toRat u) v) :
    Rounds r v := by
  intro f finite
  have grid := onGrid_toRat (canonical_unpack finite).1
  have bounded := abs_value_lt finite
  have fits : ∀ {s m e p}, u = .finite s m e p → e ≤ 971 → Rounds r v := by
    intro s m e p unpacked eHigh f finite
    rw [unpacked] at result canonical
    rw [unpack_pack_finite s m e p canonical.1 canonical.2.1 eHigh canonical.2.2] at result
    have rFinite : r.isFinite = true := by
      change r.toModel.unpack.isFinite = true
      rw [result]
      rfl
    have same : value r = toRat u := by rw [value, result, unpacked]
    rw [le_iff_toRat_le finite rFinite, le_iff_toRat_le rFinite finite]
    exact (same ▸ rounding) (value f) (onGrid_toRat (canonical_unpack finite).1)
  cases u with
  | infinity => exact canonical.elim
  | notANumber => exact canonical.elim
  | zero s =>
    rw [unpack_pack_zero] at result
    have rFinite : r.isFinite = true := by
      change r.toModel.unpack.isFinite = true
      rw [result]
      rfl
    have same : value r = toRat (.zero s) := by rw [value, result]
    rw [le_iff_toRat_le finite rFinite, le_iff_toRat_le rFinite finite]
    exact (same ▸ rounding) (value f) grid
  | finite s m e p =>
    rcases le_or_gt e 971 with eHigh | big
    · exact fits rfl eHigh f finite
    · -- overflow: the rounded magnitude reaches `2^1024`, beyond every finite double
      rw [unpack_pack_overflow s m e p (by omega)] at result
      have wide : (2 : ℚ) ^ 52 ≤ m := by
        rcases canonical.2.2 with wide | least
        · exact_mod_cast wide
        · omega
      have power : (2 : ℚ) ^ 52 * 2 ^ (972 : ℤ) = 2 ^ 1024 := by
        rw [← zpow_natCast, ← zpow_natCast, ← zpow_add₀ (by norm_num)]
        rfl
      have huge : (2 : ℚ) ^ 1024 ≤ m * 2 ^ e := by
        rw [← power]
        exact mul_le_mul wide (zpow_le_zpow_right₀ (by norm_num) (by omega)) (by positivity)
          (by positivity)
      obtain ⟨below, above⟩ := rounding (value f) grid
      have magnitude := abs_lt.mp bounded
      generalize (2 : ℚ) ^ 1024 = limit at huge magnitude
      cases s with
      | positive =>
        refine ⟨fun _ => le_of_infinity_positive finite result, fun le => ?_⟩
        have := above le
        simp only [toRat, signed] at this
        linarith
      | negative =>
        refine ⟨fun le => ?_, fun _ => le_of_infinity_negative finite result⟩
        have := below le
        simp only [toRat, signed] at this
        linarith

/-- **Rounding lemma, for doubles.** A double that packs the rounding of `m · 2^e`, with an
accuracy standing for the exact `x` and a sign `s`, rounds `±x · 2^e`. -/
theorem rounds_roundWithAccuracy {r : Float} (s : Sign) {m : ℕ} {e : ℤ} {acc : Accuracy} {x : ℚ}
    (result : r.toModel.unpack = (Float.Model.pack (roundWithAccuracy .binary64 s m e acc)).unpack)
    (represents : Represents (.ofMantissaAndAccuracy m acc) x)
    (eLow : e ≤ Format.binary64.targetExponent (totalExponent m e)) :
    Rounds r (signed s (x * 2 ^ e)) := by
  obtain ⟨canonical, rounding⟩ := roundWithAccuracy_isRounding m e acc represents eLow
  cases s with
  | positive => exact rounds_of_isRounding canonical result rounding
  | negative =>
    rw [roundWithAccuracy_negative] at result
    refine rounds_of_isRounding (canonical_neg canonical) result ?_
    rw [toRat_neg]
    exact rounding.neg

end Binary64
end SwapDesk
