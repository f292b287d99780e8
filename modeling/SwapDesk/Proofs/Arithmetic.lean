import Mathlib
import SwapDesk.Proofs.Rounding
import SwapDesk.Decimal.Round

/-! # Rounded arithmetic on doubles

Products, sums, differences and quotients of finite doubles, and the roundings to whole numbers
and places, are their exact results rounded (`Binary64.Rounds`). `PositiveSign` (`+0`, positive
or `+∞`) survives each of them, so such results are never negative or NaN.
-/

namespace SwapDesk
namespace Binary64
open Float.Model Float.Model.UnpackedFloat

theorem unpack_mul (x y : Float) : (x * y).toModel.unpack =
    (Float.Model.pack (UnpackedFloat.mul .binary64 x.toModel.unpack y.toModel.unpack)).unpack := rfl

theorem unpack_add (x y : Float) : (x + y).toModel.unpack =
    (Float.Model.pack (UnpackedFloat.add .binary64 x.toModel.unpack y.toModel.unpack)).unpack := rfl

theorem unpack_sub (x y : Float) : (x - y).toModel.unpack =
    (Float.Model.pack (UnpackedFloat.sub .binary64 x.toModel.unpack y.toModel.unpack)).unpack := rfl

theorem unpack_div (x y : Float) : (x / y).toModel.unpack =
    (Float.Model.pack (UnpackedFloat.div .binary64 x.toModel.unpack y.toModel.unpack)).unpack := rfl

theorem unpack_neg (x : Float) : (-x).toModel.unpack =
    (Float.Model.pack x.toModel.unpack.neg).unpack := rfl

theorem unpack_pack_unpack {f : Float} (finite : f.isFinite = true) :
    (Float.Model.pack f.toModel.unpack).unpack = f.toModel.unpack := by
  obtain ⟨canonical, fits⟩ := canonical_unpack finite
  generalize unpacked : f.toModel.unpack = u at canonical fits
  cases u with
  | infinity => exact canonical.elim
  | notANumber => exact canonical.elim
  | zero s => exact unpack_pack_zero s
  | finite s m e p =>
    exact unpack_pack_finite s m e p canonical.1 canonical.2.1 (fits s m e p rfl) canonical.2.2

/-- A result that packs a finite double exactly rounds that double's value. -/
theorem rounds_of_unpack_eq {r f : Float} (finite : f.isFinite = true)
    (result : r.toModel.unpack = (Float.Model.pack f.toModel.unpack).unpack) :
    Rounds r (value f) :=
  rounds_of_isRounding (canonical_unpack finite).1 result (isRounding_self _)

theorem rounds_of_zero {r : Float} {s : Sign} {v : ℚ}
    (result : r.toModel.unpack = (Float.Model.pack (.zero s)).unpack) (zero : v = 0) :
    Rounds r v :=
  rounds_of_isRounding (show Canonical (.zero s) from trivial) result
    (by rw [zero]; exact isRounding_self 0)

theorem value_eq_of_unpack {f : Float} {u : UnpackedFloat} (unpacked : f.toModel.unpack = u) :
    value f = toRat u := by
  rw [value, unpacked]

theorem isFinite_of_le_of_le {lo r hi : Float} (loFinite : lo.isFinite = true)
    (hiFinite : hi.isFinite = true) (above : lo ≤ r) (below : r ≤ hi) : r.isFinite = true := by
  have loCanonical := (canonical_unpack loFinite).1
  have hiCanonical := (canonical_unpack hiFinite).1
  rw [le_iff_compare] at above below
  change r.toModel.unpack.isFinite = true
  generalize r.toModel.unpack = u at above below
  generalize lo.toModel.unpack = l at above loCanonical
  generalize hi.toModel.unpack = h at below hiCanonical
  cases u with
  | zero => rfl
  | finite => rfl
  | notANumber => cases l <;> cases above
  | infinity s =>
    cases s with
    | positive => cases h <;> first | exact hiCanonical.elim | cases below
    | negative => cases l <;> first | exact loCanonical.elim | cases above

theorem signed_mul (s₁ s₂ : Sign) (a b : ℚ) :
    signed (s₁ * s₂) (a * b) = signed s₁ a * signed s₂ b := by
  cases s₁ <;> cases s₂
  · show a * b = -a * -b
    ring
  · show -(a * b) = -a * b
    ring
  · show -(a * b) = a * -b
    ring
  · rfl

theorem signed_div (s₁ s₂ : Sign) (a b : ℚ) :
    signed (s₁ / s₂) (a / b) = signed s₁ a / signed s₂ b := by
  cases s₁ <;> cases s₂
  · show a / b = -a / -b
    ring
  · show -(a / b) = -a / b
    ring
  · show -(a / b) = a / -b
    ring
  · rfl

/-! ## Products -/

/-- The exponent of a product of canonical mantissas is at most the exponent it is rounded at:
a product below `2^52` only comes from two subnormal operands. -/
theorem mul_exponent_le {m₁ m₂ : ℕ} {e₁ e₂ : ℤ} (p₁ : 0 < m₁) (p₂ : 0 < m₂)
    (normal₁ : 2 ^ 52 ≤ m₁ ∨ e₁ = -1074) (normal₂ : 2 ^ 52 ≤ m₂ ∨ e₂ = -1074) :
    e₁ + e₂ ≤ Format.binary64.targetExponent (totalExponent (m₁ * m₂) (e₁ + e₂)) := by
  rw [targetExponent_eq]
  by_cases wide : 2 ^ 52 ≤ m₁ * m₂
  · have := (Nat.le_log2 (Nat.ne_of_gt (Nat.mul_pos p₁ p₂))).mpr wide
    omega
  · have narrow₁ : ¬ 2 ^ 52 ≤ m₁ := fun h =>
      wide (le_trans h (Nat.le_mul_of_pos_right _ p₂))
    have narrow₂ : ¬ 2 ^ 52 ≤ m₂ := fun h =>
      wide (le_trans h (Nat.le_mul_of_pos_left _ p₁))
    have := normal₁.resolve_left narrow₁
    have := normal₂.resolve_left narrow₂
    omega

/-- **Products.** The product of two finite doubles is their exact product rounded. -/
theorem rounds_mul {x y : Float} (hx : x.isFinite = true) (hy : y.isFinite = true) :
    Rounds (x * y) (value x * value y) := by
  have cx := (canonical_unpack hx).1
  have cy := (canonical_unpack hy).1
  have result := unpack_mul x y
  rw [value, value]
  generalize x.toModel.unpack = u at cx result
  generalize y.toModel.unpack = w at cy result
  cases u with
  | infinity => exact cx.elim
  | notANumber => exact cx.elim
  | zero s₁ =>
    cases w with
    | infinity => exact cy.elim
    | notANumber => exact cy.elim
    | zero s₂ => exact rounds_of_zero result (by simp [toRat])
    | finite s₂ m₂ e₂ p₂ => exact rounds_of_zero result (by simp [toRat])
  | finite s₁ m₁ e₁ p₁ =>
    cases w with
    | infinity => exact cy.elim
    | notANumber => exact cy.elim
    | zero s₂ => exact rounds_of_zero result (by simp [toRat])
    | finite s₂ m₂ e₂ p₂ =>
      have rounded := rounds_roundWithAccuracy (s₁ * s₂) result (represents_exact (m₁ * m₂))
        (mul_exponent_le p₁ p₂ cx.2.2 cy.2.2)
      have product :
          ((m₁ * m₂ : ℕ) : ℚ) * 2 ^ (e₁ + e₂) = (m₁ * 2 ^ e₁) * (m₂ * 2 ^ e₂) := by
        rw [zpow_add₀ (by norm_num)]
        push_cast
        ring
      rwa [product, signed_mul] at rounded

/-! ## Sums and differences -/

theorem log2_shiftLeft {m : ℕ} (pos : 0 < m) (d : ℕ) : (m <<< d).log2 = m.log2 + d := by
  rw [Nat.shiftLeft_eq]
  exact log2_mul_pow m d m.log2 (Nat.log2_self_le (Nat.ne_of_gt pos)) Nat.lt_log2_self

theorem shiftLeft_mul_two_zpow (m d : ℕ) (e : ℤ) :
    ((m <<< d : ℕ) : ℚ) * 2 ^ (e - d) = m * 2 ^ e := by
  rw [Nat.shiftLeft_eq, zpow_sub₀ (by norm_num), zpow_natCast]
  push_cast
  field_simp

/-- Rounding a whole mantissa `m · 2^e`, which first moves `m` up to the exponent it is rounded
at, gives `m · 2^e` rounded. -/
theorem rounds_round {r : Float} (s : Sign) {m : ℕ} {e : ℤ} (pos : 0 < m)
    (result : r.toModel.unpack = (Float.Model.pack (UnpackedFloat.round .binary64 s m e)).unpack) :
    Rounds r (signed s (m * 2 ^ e)) := by
  set d := (e - Format.binary64.targetExponent (totalExponent m e)).toNat
  have target := targetExponent_eq m e
  have eLow : e - d ≤ Format.binary64.targetExponent (totalExponent (m <<< d) (e - d)) := by
    rw [targetExponent_eq, log2_shiftLeft pos d]
    omega
  have rounded := rounds_roundWithAccuracy s result (represents_exact (m <<< d)) eLow
  rwa [shiftLeft_mul_two_zpow] at rounded

/-- Rounding a signed whole mantissa `M · 2^e`, as sums and differences do, gives `M · 2^e`
rounded; a zero sum takes the sign asked for. -/
theorem rounds_normalize {r : Float} (M : ℤ) (e : ℤ) (zeroSign : Sign)
    (result : r.toModel.unpack =
      (Float.Model.pack (UnpackedFloat.normalize .binary64 M e zeroSign)).unpack) :
    Rounds r (M * 2 ^ e) := by
  unfold UnpackedFloat.normalize at result
  rcases lt_trichotomy M 0 with negative | rfl | positive
  · rw [Int.compare_eq_lt.mpr negative] at result
    have rounded := rounds_round .negative (by omega) result
    have magnitude : (((-M).toNat : ℕ) : ℚ) = -M := by
      rw [show ((-M).toNat : ℚ) = (((-M).toNat : ℤ) : ℚ) from rfl,
        Int.toNat_of_nonneg (by omega)]
      push_cast
      ring
    rw [magnitude] at rounded
    simpa [signed] using rounded
  · rw [Int.compare_eq_eq.mpr rfl] at result
    exact rounds_of_zero result (by simp)
  · rw [Int.compare_eq_gt.mpr positive] at result
    have rounded := rounds_round .positive (by omega) result
    have magnitude : ((M.toNat : ℕ) : ℚ) = M := by
      rw [show (M.toNat : ℚ) = ((M.toNat : ℤ) : ℚ) from rfl, Int.toNat_of_nonneg (by omega)]
    rwa [magnitude] at rounded

theorem apply_shiftLeft (s : Sign) (m : ℕ) {e t : ℤ} (le : t ≤ e) :
    ((s.apply ((m <<< (e - t).toNat : ℕ) : ℤ) : ℤ) : ℚ) * 2 ^ t = signed s (m * 2 ^ e) := by
  have shifted := shiftLeft_mul_two_zpow m (e - t).toNat e
  rw [show e - ((e - t).toNat : ℤ) = t by omega] at shifted
  cases s <;> simp only [Sign.apply, signed, Int.cast_neg, Int.cast_natCast, neg_mul, shifted]

/-- Two signed mantissas moved down to the smaller exponent and added stand for the exact sum. -/
theorem add_mantissa_value (s₁ s₂ : Sign) (m₁ m₂ : ℕ) (e₁ e₂ : ℤ) :
    ((s₁.apply ((m₁ <<< (e₁ - min e₁ e₂).toNat : ℕ) : ℤ) +
      s₂.apply ((m₂ <<< (e₂ - min e₁ e₂).toNat : ℕ) : ℤ) : ℤ) : ℚ) * 2 ^ min e₁ e₂ =
      signed s₁ (m₁ * 2 ^ e₁) + signed s₂ (m₂ * 2 ^ e₂) := by
  rw [Int.cast_add, add_mul, apply_shiftLeft s₁ m₁ (min_le_left e₁ e₂),
    apply_shiftLeft s₂ m₂ (min_le_right e₁ e₂)]

/-- **Sums.** The sum of two finite doubles is their exact sum rounded. -/
theorem rounds_add {x y : Float} (hx : x.isFinite = true) (hy : y.isFinite = true) :
    Rounds (x + y) (value x + value y) := by
  have cx := (canonical_unpack hx).1
  have cy := (canonical_unpack hy).1
  have result := unpack_add x y
  cases hu : x.toModel.unpack with
  | infinity => rw [hu] at cx; exact cx.elim
  | notANumber => rw [hu] at cx; exact cx.elim
  | zero s₁ =>
    cases hw : y.toModel.unpack with
    | infinity => rw [hw] at cy; exact cy.elim
    | notANumber => rw [hw] at cy; exact cy.elim
    | zero s₂ =>
      rw [hu, hw] at result
      simp only [UnpackedFloat.add] at result
      split at result <;> exact rounds_of_zero result (by simp [value, hu, hw, toRat])
    | finite s₂ m₂ e₂ p₂ =>
      rw [hu, hw] at result
      have rounded := rounds_of_unpack_eq hy (by rw [result, hw]; rfl)
      rwa [show value x = 0 by simp [value, hu, toRat], zero_add]
  | finite s₁ m₁ e₁ p₁ =>
    cases hw : y.toModel.unpack with
    | infinity => rw [hw] at cy; exact cy.elim
    | notANumber => rw [hw] at cy; exact cy.elim
    | zero s₂ =>
      rw [hu, hw] at result
      have rounded := rounds_of_unpack_eq hx (by rw [result, hu]; rfl)
      rwa [show value y = 0 by simp [value, hw, toRat], add_zero]
    | finite s₂ m₂ e₂ p₂ =>
      rw [hu, hw] at result
      have rounded := rounds_normalize _ _ _ result
      rw [add_mantissa_value] at rounded
      rwa [value_eq_of_unpack hu, value_eq_of_unpack hw]

/-- **Differences.** The difference of two finite doubles is their exact difference rounded. -/
theorem rounds_sub {x y : Float} (hx : x.isFinite = true) (hy : y.isFinite = true) :
    Rounds (x - y) (value x - value y) := by
  have cx := (canonical_unpack hx).1
  have cy := (canonical_unpack hy).1
  have result := unpack_sub x y
  cases hu : x.toModel.unpack with
  | infinity => rw [hu] at cx; exact cx.elim
  | notANumber => rw [hu] at cx; exact cx.elim
  | zero s₁ =>
    cases hw : y.toModel.unpack with
    | infinity => rw [hw] at cy; exact cy.elim
    | notANumber => rw [hw] at cy; exact cy.elim
    | zero s₂ =>
      rw [hu, hw] at result
      simp only [UnpackedFloat.sub] at result
      split at result <;> exact rounds_of_zero result (by simp [value, hu, hw, toRat])
    | finite s₂ m₂ e₂ p₂ =>
      -- zero minus a double is its negation, exactly
      rw [hu, hw] at result
      rw [hw] at cy
      have rounded := rounds_of_isRounding (canonical_neg cy) result (isRounding_self _)
      rw [toRat_neg] at rounded
      rwa [value_eq_of_unpack hu, value_eq_of_unpack hw, toRat, zero_sub]
  | finite s₁ m₁ e₁ p₁ =>
    cases hw : y.toModel.unpack with
    | infinity => rw [hw] at cy; exact cy.elim
    | notANumber => rw [hw] at cy; exact cy.elim
    | zero s₂ =>
      rw [hu, hw] at result
      have rounded := rounds_of_unpack_eq hx (by rw [result, hu]; rfl)
      rwa [show value y = 0 by simp [value, hw, toRat], sub_zero]
    | finite s₂ m₂ e₂ p₂ =>
      rw [hu, hw] at result
      have rounded := rounds_normalize _ _ _ result
      rw [Int.cast_sub, sub_mul, apply_shiftLeft s₁ m₁ (min_le_left e₁ e₂),
        apply_shiftLeft s₂ m₂ (min_le_right e₁ e₂)] at rounded
      rwa [value_eq_of_unpack hu, value_eq_of_unpack hw]

/-! ## Quotients -/

/-- The quotient mantissa of two canonical doubles is worked out at an exponent `t` no larger than
the one it is rounded at: either `t` is already below the least exponent, or the dividend is
moved up far enough that the quotient has at least 53 bits. -/
theorem div_exponent_le {m₁ m₂ : ℕ} {e₁ e₂ t : ℤ} (p₁ : 0 < m₁) (p₂ : 0 < m₂)
    (small₁ : m₁ < 2 ^ 53)
    (target : t = min (e₁ - e₂)
      (Format.binary64.targetExponent (totalExponent m₁ e₁ - totalExponent m₂ e₂))) :
    t ≤ Format.binary64.targetExponent
      (totalExponent (m₁ <<< (e₁ - e₂ - t).toNat / m₂) t) := by
  simp only [Format.targetExponent, totalExponent, Format.mantissaBits, Format.minExponent]
    at target
  rw [targetExponent_eq]
  have bits₁ : m₁.log2 ≤ 52 := by
    have := (Nat.log2_lt (Nat.ne_of_gt p₁)).mpr small₁
    omega
  by_cases least : (m₁.log2 : ℤ) - m₂.log2 + e₁ - e₂ - 53 ≤ -1074
  · omega
  · -- the dividend moves up by `53 - log₂ m₁ + log₂ m₂` places: the quotient has 53 bits
    set shift := (e₁ - e₂ - t).toNat
    have shiftEq : shift + m₁.log2 = 53 + m₂.log2 := by omega
    have wide : 2 ^ 52 ≤ m₁ <<< shift / m₂ := by
      rw [Nat.le_div_iff_mul_le p₂, Nat.shiftLeft_eq]
      calc 2 ^ 52 * m₂ ≤ 2 ^ 52 * 2 ^ (m₂.log2 + 1) :=
            Nat.mul_le_mul_left _ (Nat.lt_log2_self).le
        _ = 2 ^ m₁.log2 * 2 ^ shift := by rw [← Nat.pow_add, ← Nat.pow_add]; congr 1; omega
        _ ≤ m₁ * 2 ^ shift := Nat.mul_le_mul_right _ (Nat.log2_self_le (Nat.ne_of_gt p₁))
    have := (Nat.le_log2 (by omega)).mpr wide
    omega

/-- The mantissa, exponent and accuracy of a quotient stand for the exact quotient. -/
theorem divCore_exact (m₁ m₂ : ℕ) (e₁ e₂ t : ℤ) (p₂ : 0 < m₂) (le : t ≤ e₁ - e₂) :
    ((m₁ <<< (e₁ - e₂ - t).toNat / m₂ : ℕ) +
      ((m₁ <<< (e₁ - e₂ - t).toNat % m₂ : ℕ) : ℚ) / m₂) *
      2 ^ t = m₁ * 2 ^ e₁ / (m₂ * 2 ^ e₂) := by
  set n := m₁ <<< (e₁ - e₂ - t).toNat
  have divisor : (m₂ : ℚ) ≠ 0 := by exact_mod_cast Nat.ne_of_gt p₂
  have whole : ((n / m₂ : ℕ) : ℚ) + ((n % m₂ : ℕ) : ℚ) / m₂ = n / m₂ := by
    field_simp
    exact_mod_cast Nat.div_add_mod' n m₂
  have shifted := shiftLeft_mul_two_zpow m₁ (e₁ - e₂ - t).toNat e₁
  rw [show e₁ - ((e₁ - e₂ - t).toNat : ℤ) = t + e₂ by omega, zpow_add₀ (by norm_num)]
    at shifted
  rw [whole, div_mul_eq_mul_div, div_eq_div_iff divisor (by positivity)]
  rw [← shifted]
  ring

/-- **Quotients.** The quotient of a finite double by a non-zero finite double is their exact
quotient rounded. -/
theorem rounds_div {x y : Float} (hx : x.isFinite = true) (hy : y.isFinite = true)
    (nonzero : value y ≠ 0) : Rounds (x / y) (value x / value y) := by
  have cx := (canonical_unpack hx).1
  have cy := (canonical_unpack hy).1
  have result := unpack_div x y
  unfold value at nonzero ⊢
  generalize x.toModel.unpack = u at cx result
  generalize y.toModel.unpack = w at cy result nonzero
  cases w with
  | infinity => exact cy.elim
  | notANumber => exact cy.elim
  | zero s₂ => exact absurd rfl nonzero
  | finite s₂ m₂ e₂ p₂ =>
    cases u with
    | infinity => exact cx.elim
    | notANumber => exact cx.elim
    | zero s₁ => exact rounds_of_zero result (by simp [toRat])
    | finite s₁ m₁ e₁ p₁ =>
      set t := min (e₁ - e₂)
        (Format.binary64.targetExponent (totalExponent m₁ e₁ - totalExponent m₂ e₂)) with t_def
      set n := m₁ <<< (e₁ - e₂ - t).toNat
      have rounded := @rounds_roundWithAccuracy (x / y) (s₁ / s₂) (n / m₂) t
        (accuracyOfFraction (n % m₂) m₂) _ result
        (represents_fraction (n / m₂) (n % m₂) m₂ (Nat.mod_lt n p₂))
        (div_exponent_le p₁ p₂ cx.1 t_def)
      rwa [divCore_exact m₁ m₂ e₁ e₂ t p₂ (min_le_left _ _), signed_div] at rounded

/-! ## Negation -/

theorem unpack_neg_of_isFinite {x : Float} (finite : x.isFinite = true) :
    (-x).toModel.unpack = x.toModel.unpack.neg := by
  rw [unpack_neg]
  obtain ⟨canonical, fits⟩ := canonical_unpack finite
  generalize x.toModel.unpack = u at canonical fits
  cases u with
  | infinity => exact canonical.elim
  | notANumber => exact canonical.elim
  | zero s => exact unpack_pack_zero (-s)
  | finite s m e p =>
    exact unpack_pack_finite (-s) m e p canonical.1 canonical.2.1 (fits s m e p rfl) canonical.2.2

theorem isFinite_neg {x : Float} (finite : x.isFinite = true) : (-x).isFinite = true := by
  change (-x).toModel.unpack.isFinite = true
  change x.toModel.unpack.isFinite = true at finite
  rw [unpack_neg_of_isFinite finite]
  generalize x.toModel.unpack = u at finite
  cases u <;> first | rfl | cases finite

theorem value_neg {x : Float} (finite : x.isFinite = true) : value (-x) = -value x := by
  rw [value, unpack_neg_of_isFinite finite, toRat_neg, value]

/-! ## Rounding to a whole number -/

/-- Rounding `m / u` half away from zero stays within one of it: it is `⌊m / u⌋`, or one more
when the remainder is at least half of `u`. -/
theorem roundHalf_bounds (m u : ℕ) (two : 2 ≤ u) :
    let whole := if 2 * (m % u) ≥ u then m / u + 1 else m / u
    ((whole : ℕ) : ℚ) - 1 < m / u ∧ (m : ℚ) / u < (whole : ℕ) + 1 := by
  intro whole
  have unitPos : (0 : ℚ) < u := by exact_mod_cast (by omega : 0 < u)
  -- `m / u = ⌊m / u⌋ + (m mod u) / u`, the last part in `[0, 1)`
  have split : (m : ℚ) / u = ((m / u : ℕ) : ℚ) + ((m % u : ℕ) : ℚ) / u := by
    field_simp
    exact_mod_cast (Nat.div_add_mod m u).symm
  have remainder : ((m % u : ℕ) : ℚ) / u < 1 := by
    rw [div_lt_one unitPos]
    exact_mod_cast Nat.mod_lt m (by omega)
  have remainderNonneg : (0 : ℚ) ≤ ((m % u : ℕ) : ℚ) / u := by positivity
  simp only [whole]
  split
  · rename_i half
    have positive : (0 : ℚ) < ((m % u : ℕ) : ℚ) / u :=
      div_pos (by exact_mod_cast (by omega : 0 < m % u)) unitPos
    push_cast
    constructor <;> linarith
  · constructor <;> linarith

theorem cast_apply (s : Sign) (n : ℤ) : ((s.apply n : ℤ) : ℚ) = signed s n := by
  cases s <;> simp [Sign.apply, signed]

theorem floor_le_and_le_ceil {v : ℚ} {w : ℤ} (near : (w : ℚ) - 1 < v ∧ v < w + 1) :
    ⌊v⌋ ≤ w ∧ w ≤ ⌈v⌉ :=
  ⟨Int.floor_le_iff.mpr near.2, Int.le_ceil_iff.mpr near.1⟩

theorem signed_near {s : Sign} {v w : ℚ} (near : w - 1 < v ∧ v < w + 1) :
    signed s w - 1 < signed s v ∧ signed s v < signed s w + 1 := by
  cases s
  · exact ⟨by simp only [signed]; linarith [near.2], by simp only [signed]; linarith [near.1]⟩
  · exact near

/-- **Whole numbers.** Rounding a finite double half away from zero gives a double that rounds a
whole number between the floor and the ceiling of the double. -/
theorem exists_rounds_roundHalfAway {x : Float} (finite : x.isFinite = true) :
    ∃ w : ℤ, Rounds (roundHalfAway x) w ∧ ⌊value x⌋ ≤ w ∧ w ≤ ⌈value x⌉ := by
  have itself : Rounds x (value x) := rounds_of_unpack_eq finite (unpack_pack_unpack finite).symm
  obtain ⟨canonical, -⟩ := canonical_unpack finite
  cases hu : x.toModel.unpack with
  | infinity => rw [hu] at canonical; exact canonical.elim
  | notANumber => rw [hu] at canonical; exact canonical.elim
  | zero s =>
    have zero : value x = 0 := by rw [value_eq_of_unpack hu]; rfl
    have same : roundHalfAway x = x := by simp only [roundHalfAway, hu]
    refine ⟨0, ?_, by simp [zero], by simp [zero]⟩
    rw [same, Int.cast_zero, ← zero]
    exact itself
  | finite s m e p =>
    by_cases whole : 0 ≤ e
    · -- already whole: the double is its own rounding
      have same : roundHalfAway x = x := by simp only [roundHalfAway, hu, if_pos whole]
      have integral : value x = ((s.apply (m * 2 ^ e.toNat : ℕ) : ℤ) : ℚ) := by
        rw [value_eq_of_unpack hu, cast_apply, toRat]
        push_cast
        rw [← zpow_natCast, Int.toNat_of_nonneg whole]
      refine ⟨_, ?_, by rw [integral, Int.floor_intCast], by rw [integral, Int.ceil_intCast]⟩
      rw [same, ← integral]
      exact itself
    · -- cut to `⌊m / 2^-e⌋`, up by one from half a unit on
      set unit := Nat.pow 2 (-e).toNat with unit_def
      set cut := if 2 * (m % unit) ≥ unit then m / unit + 1 else m / unit with cut_def
      have result : (roundHalfAway x).toModel.unpack = (Float.Model.pack
          (if cut = 0 then .zero s else UnpackedFloat.round .binary64 s cut 0)).unpack := by
        simp only [roundHalfAway, hu, if_neg whole]
        rfl
      have unitCast : ((unit : ℕ) : ℚ) = 2 ^ (-e).toNat := by
        rw [unit_def, Nat.pow_eq]
        push_cast
        rfl
      have scaled : value x = signed s (m / unit) := by
        rw [value_eq_of_unpack hu, toRat, unitCast, div_eq_mul_inv, ← zpow_natCast, ← zpow_neg,
          Int.toNat_of_nonneg (by omega), neg_neg]
      have near := signed_near (s := s) (roundHalf_bounds m unit (by
        rw [unit_def, Nat.pow_eq]
        exact le_trans (le_refl 2) (Nat.le_self_pow (by omega) 2)))
      rw [← cut_def, ← scaled] at near
      have nearWhole :
          ((s.apply cut : ℤ) : ℚ) - 1 < value x ∧ value x < (s.apply cut : ℤ) + 1 := by
        rw [cast_apply, Int.cast_natCast]
        exact near
      refine ⟨s.apply cut, ?_, floor_le_and_le_ceil nearWhole⟩
      rw [cast_apply]
      split at result
      · rename_i zero
        exact rounds_of_zero result (by rw [zero]; cases s <;> simp [signed])
      · have rounded := rounds_round s (Nat.pos_of_ne_zero ‹_›) result
        simpa using rounded

/-! ## Bounds -/

/-- A rounding of a number between two finite doubles is a finite double between them. -/
theorem Rounds.mem {r lo hi : Float} {v : ℚ} (rounds : Rounds r v) (loFinite : lo.isFinite = true)
    (hiFinite : hi.isFinite = true) (above : value lo ≤ v) (below : v ≤ value hi) :
    r.isFinite = true ∧ value lo ≤ value r ∧ value r ≤ value hi := by
  have loLe := (rounds lo loFinite).1 above
  have leHi := (rounds hi hiFinite).2 below
  have finite := isFinite_of_le_of_le loFinite hiFinite loLe leHi
  exact ⟨finite, (le_iff_toRat_le loFinite finite).mp loLe,
    (le_iff_toRat_le finite hiFinite).mp leHi⟩

/-- Rounding half away from zero keeps a double between two whole doubles. -/
theorem roundHalfAway_mem {x lo hi : Float} (finite : x.isFinite = true)
    (loFinite : lo.isFinite = true) (hiFinite : hi.isFinite = true)
    (loWhole : ∃ k : ℤ, value lo = k) (hiWhole : ∃ k : ℤ, value hi = k)
    (above : value lo ≤ value x) (below : value x ≤ value hi) :
    (roundHalfAway x).isFinite = true ∧ value lo ≤ value (roundHalfAway x) ∧
      value (roundHalfAway x) ≤ value hi := by
  obtain ⟨w, rounds, floorLe, leCeil⟩ := exists_rounds_roundHalfAway finite
  obtain ⟨k, hk⟩ := loWhole
  obtain ⟨l, hl⟩ := hiWhole
  have kLe : k ≤ w := le_trans (Int.le_floor.mpr (hk ▸ above)) floorLe
  have leL : w ≤ l := le_trans leCeil (Int.ceil_le.mpr (hl ▸ below))
  exact rounds.mem loFinite hiFinite (by rw [hk]; exact_mod_cast kLe)
    (by rw [hl]; exact_mod_cast leL)

/-- **Decimal places.** Rounding to `d` places keeps a double between two doubles whose multiples
by `10^d` are whole doubles. -/
theorem roundTo_mem {x lo hi loScaled hiScaled : Float} {d : ℤ} (finite : x.isFinite = true)
    (factorFinite : (powi 10.0 d).isFinite = true) (factorPos : 0 < value (powi 10.0 d))
    (loFinite : lo.isFinite = true) (hiFinite : hi.isFinite = true)
    (loScaledFinite : loScaled.isFinite = true) (hiScaledFinite : hiScaled.isFinite = true)
    (loScaledEq : value loScaled = value lo * value (powi 10.0 d))
    (hiScaledEq : value hiScaled = value hi * value (powi 10.0 d))
    (loWhole : ∃ k : ℤ, value loScaled = k) (hiWhole : ∃ k : ℤ, value hiScaled = k)
    (above : value lo ≤ value x) (below : value x ≤ value hi) :
    (roundTo x d).isFinite = true ∧ value lo ≤ value (roundTo x d) ∧
      value (roundTo x d) ≤ value hi := by
  set factor := powi 10.0 d
  -- scaled up, the double lies between the two whole doubles, and stays there when rounded
  obtain ⟨scaledFinite, scaledAbove, scaledBelow⟩ := (rounds_mul finite factorFinite).mem
    loScaledFinite hiScaledFinite
    (by rw [loScaledEq]; exact mul_le_mul_of_nonneg_right above factorPos.le)
    (by rw [hiScaledEq]; exact mul_le_mul_of_nonneg_right below factorPos.le)
  obtain ⟨wholeFinite, wholeAbove, wholeBelow⟩ :=
    roundHalfAway_mem scaledFinite loScaledFinite hiScaledFinite loWhole hiWhole scaledAbove
      scaledBelow
  -- scaled back down, between the two doubles again
  exact (rounds_div wholeFinite factorFinite factorPos.ne').mem loFinite hiFinite
    (by rw [le_div_iff₀ factorPos, ← loScaledEq]; exact wholeAbove)
    (by rw [div_le_iff₀ factorPos, ← hiScaledEq]; exact wholeBelow)

/-! ## Signs -/

/-- A double that is `+0`, a positive finite double or `+∞`: a number of at least zero, written
without the sign bit. -/
def PositiveSign : UnpackedFloat → Prop
  | .zero .positive => True
  | .finite .positive _ _ _ => True
  | .infinity .positive => True
  | _ => False

theorem PositiveSign.shape {u : UnpackedFloat} (positive : PositiveSign u) :
    u = .infinity .positive ∨ u = .zero .positive ∨ ∃ m e p, u = .finite .positive m e p := by
  cases u with
  | notANumber => exact positive.elim
  | infinity s => cases s with
    | negative => exact positive.elim
    | positive => exact .inl rfl
  | zero s => cases s with
    | negative => exact positive.elim
    | positive => exact .inr (.inl rfl)
  | finite s m e p => cases s with
    | negative => exact positive.elim
    | positive => exact .inr (.inr ⟨m, e, p, rfl⟩)

theorem positiveSign_unpack_packComponents (x : BitVec 11) (y : BitVec 52) (notTop : x ≠ -1#11) :
    PositiveSign (UnpackedFloat.unpack .binary64 (packComponents .binary64 .positive x y)) := by
  simp only [UnpackedFloat.unpack, unpackMantissa_packComponents, unpackExponent_packComponents,
    unpackSign_packComponents, ofBitVec_toBitVec]
  rw [if_neg notTop]
  split
  · split <;> trivial
  · trivial

/-- Packing keeps the sign of a double and never makes a `NaN` of a number. -/
theorem positiveSign_unpack_pack {u : UnpackedFloat} (positive : PositiveSign u) :
    PositiveSign (Float.Model.pack u).unpack := by
  rw [model_unpack_pack]
  cases u with
  | notANumber => exact positive.elim
  | infinity s => cases s with | negative => exact positive.elim | positive => trivial
  | zero s => cases s with | negative => exact positive.elim | positive => trivial
  | finite s m e p =>
    cases s
    · exact positive.elim
    simp only [UnpackedFloat.pack]
    split
    · trivial
    · rename_i fits
      split
      · apply positiveSign_unpack_packComponents
        intro top
        have field := congrArg BitVec.toNat top
        rw [BitVec.toNat_ofNat, show (-1#11).toNat = 2047 from rfl] at field
        have bias : Format.binary64.exponentBias = 1023 := rfl
        simp only [bias] at fits field
        omega
      · exact positiveSign_unpack_packComponents _ _ (by decide)

theorem positiveSign_roundWithAccuracy (m : ℕ) (e : ℤ) (acc : Accuracy) :
    PositiveSign (roundWithAccuracy .binary64 .positive m e acc) := by
  simp only [roundWithAccuracy]
  split <;> trivial

theorem zero_le_of_positiveSign {x : Float} (positive : PositiveSign x.toModel.unpack) :
    0 ≤ x := by
  rw [le_iff_compare, unpack_zeroFloat]
  generalize x.toModel.unpack = u at positive
  cases u with
  | notANumber => exact positive.elim
  | infinity s => cases s with | negative => exact positive.elim | positive => rfl
  | zero s => cases s with | negative => exact positive.elim | positive => rfl
  | finite s => cases s with | negative => exact positive.elim | positive => rfl

theorem exists_finite_positive {x : Float} (finite : x.isFinite = true) (pos : 0 < value x) :
    ∃ m e p, x.toModel.unpack = .finite .positive m e p := by
  have canonical := (canonical_unpack finite).1
  rw [value] at pos
  generalize x.toModel.unpack = u at canonical pos
  cases u with
  | infinity => exact canonical.elim
  | notANumber => exact canonical.elim
  | zero => simp [toRat] at pos
  | finite s m e p =>
    cases s with
    | negative =>
      have : (0 : ℚ) < m * 2 ^ e := mul_pos (by exact_mod_cast p) (two_zpow_pos e)
      simp only [toRat, signed] at pos
      linarith
    | positive => exact ⟨m, e, p, rfl⟩

theorem exists_finite_positive_of_le {lo x : Float} (loFinite : lo.isFinite = true)
    (finite : x.isFinite = true) (pos : 0 < value lo) (le : lo ≤ x) :
    ∃ m e p, x.toModel.unpack = .finite .positive m e p := by
  have above : value lo ≤ value x := (le_iff_toRat_le loFinite finite).mp le
  exact exists_finite_positive finite (lt_of_lt_of_le pos above)

theorem positiveSign_of_positive {x : Float}
    (hx : ∃ m e p, x.toModel.unpack = .finite .positive m e p) :
    PositiveSign x.toModel.unpack := by
  obtain ⟨m, e, p, hx⟩ := hx
  rw [hx]
  trivial


/-- A double of positive sign times a positive finite double keeps its sign. -/
theorem positiveSign_mul {x y : Float} (hx : PositiveSign x.toModel.unpack)
    (hy : ∃ m e p, y.toModel.unpack = .finite .positive m e p) :
    PositiveSign (x * y).toModel.unpack := by
  obtain ⟨m, e, p, hy⟩ := hy
  rw [unpack_mul, hy]
  apply positiveSign_unpack_pack
  -- `+∞` and `+0` pass through the product as they are; a finite operand is rounded with the
  -- sign of the product, which is positive
  rcases hx.shape with hx | hx | ⟨m', e', p', hx⟩ <;> rw [hx]
  · trivial
  · trivial
  · exact positiveSign_roundWithAccuracy _ _ _

theorem positiveSign_mul_of_positive {x y : Float}
    (hx : ∃ m e p, x.toModel.unpack = .finite .positive m e p)
    (hy : PositiveSign y.toModel.unpack) : PositiveSign (x * y).toModel.unpack := by
  obtain ⟨m, e, p, hx⟩ := hx
  rw [unpack_mul, hx]
  apply positiveSign_unpack_pack
  rcases hy.shape with hy | hy | ⟨m', e', p', hy⟩ <;> rw [hy]
  · trivial
  · trivial
  · exact positiveSign_roundWithAccuracy _ _ _

theorem positiveSign_div {x y : Float} (hx : PositiveSign x.toModel.unpack)
    (hy : ∃ m e p, y.toModel.unpack = .finite .positive m e p) :
    PositiveSign (x / y).toModel.unpack := by
  obtain ⟨m, e, p, hy⟩ := hy
  rw [unpack_div, hy]
  apply positiveSign_unpack_pack
  rcases hx.shape with hx | hx | ⟨m', e', p', hx⟩ <;> rw [hx]
  · trivial
  · trivial
  · exact positiveSign_roundWithAccuracy _ _ _

/-- A positive finite double divided by a double of positive sign has positive sign: by `+0` it
is `+∞`, by `+∞` it is `+0`. -/
theorem positiveSign_div_of_positive {x y : Float}
    (hx : ∃ m e p, x.toModel.unpack = .finite .positive m e p)
    (hy : PositiveSign y.toModel.unpack) : PositiveSign (x / y).toModel.unpack := by
  obtain ⟨m, e, p, hx⟩ := hx
  rw [unpack_div, hx]
  apply positiveSign_unpack_pack
  rcases hy.shape with hy | hy | ⟨m', e', p', hy⟩ <;> rw [hy]
  · trivial
  · trivial
  · exact positiveSign_roundWithAccuracy _ _ _

theorem positiveSign_roundHalfAway {x : Float} (positive : PositiveSign x.toModel.unpack) :
    PositiveSign (roundHalfAway x).toModel.unpack := by
  cases hu : x.toModel.unpack with
  | notANumber => rw [hu] at positive; exact positive.elim
  | infinity s => simp only [roundHalfAway, hu]; rwa [← hu]
  | zero s => simp only [roundHalfAway, hu]; rwa [← hu]
  | finite s m e p =>
    rw [hu] at positive
    cases s
    · exact positive.elim
    by_cases whole : 0 ≤ e
    · simp only [roundHalfAway, hu, if_pos whole]
      trivial
    · -- the cut magnitude, zero or rounded with the positive sign
      have cut : ∀ n : ℕ, PositiveSign
          (if n = 0 then .zero .positive else UnpackedFloat.round .binary64 .positive n 0) := by
        intro n
        split
        · trivial
        · exact positiveSign_roundWithAccuracy _ _ _
      simp only [roundHalfAway, hu, if_neg whole]
      exact positiveSign_unpack_pack (cut _)

theorem positiveSign_roundTo {x : Float} {d : ℤ} (positive : PositiveSign x.toModel.unpack)
    (factor : ∃ m e p, (powi 10.0 d).toModel.unpack = .finite .positive m e p) :
    PositiveSign (roundTo x d).toModel.unpack :=
  positiveSign_div (positiveSign_roundHalfAway (positiveSign_mul positive factor)) factor

theorem positiveSign_normalize {M : ℤ} (t : ℤ) (nonneg : 0 ≤ M) :
    PositiveSign (UnpackedFloat.normalize .binary64 M t .positive) := by
  unfold UnpackedFloat.normalize
  rcases nonneg.lt_or_eq with positive | zero
  · rw [Int.compare_eq_gt.mpr positive]
    exact positiveSign_roundWithAccuracy _ _ _
  · rw [← zero, Int.compare_eq_eq.mpr rfl]
    trivial

/-- A sum with a positive finite double that is at least zero has positive sign: a sum that
cancels exactly is `+0`. -/
theorem positiveSign_add {x y : Float} (hx : ∃ m e p, x.toModel.unpack = .finite .positive m e p)
    (hy : y.isFinite = true) (nonneg : 0 ≤ value x + value y) :
    PositiveSign (x + y).toModel.unpack := by
  obtain ⟨m₁, e₁, p₁, hx⟩ := hx
  have cy := (canonical_unpack hy).1
  rw [unpack_add, hx]
  apply positiveSign_unpack_pack
  cases hw : y.toModel.unpack with
  | infinity => rw [hw] at cy; exact cy.elim
  | notANumber => rw [hw] at cy; exact cy.elim
  | zero s₂ => trivial
  | finite s₂ m₂ e₂ p₂ =>
    apply positiveSign_normalize
    -- the whole sum, `M · 2^t`, is at least zero, and so is `M`
    have sum : ((Sign.positive.apply ((m₁ <<< (e₁ - min e₁ e₂).toNat : ℕ) : ℤ) +
        s₂.apply ((m₂ <<< (e₂ - min e₁ e₂).toNat : ℕ) : ℤ) : ℤ) : ℚ) * 2 ^ min e₁ e₂ =
        value x + value y := by
      rw [value_eq_of_unpack hx, value_eq_of_unpack hw]
      exact add_mantissa_value .positive s₂ m₁ m₂ e₁ e₂
    rw [← sum] at nonneg
    exact_mod_cast nonneg_of_mul_nonneg_left nonneg (two_zpow_pos _)

end Binary64
end SwapDesk
