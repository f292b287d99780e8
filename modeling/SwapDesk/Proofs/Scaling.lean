import Mathlib
import SwapDesk.Proofs.MinStd

/-! # Scaling a draw to a whole range

Truncating `r · N` stays below `N` on the reals, but on doubles the product is rounded first and
could reach `N`. It never does: every draw is at least `2^-32` below one (`IsDraw`), and for
`N < 2^32` that gap is wider than the rounding can add (`truncate_mul_lt`).
-/

namespace SwapDesk

namespace Binary64

open Float.Model Float.Model.UnpackedFloat

/-! ## Products and quotients -/

/-- The product of two positive normal doubles is the product of their mantissas, of 105 or
106 bits, rounded. -/
theorem unpack_mul_le {x y : Float} {m₁ m₂ : Nat} {e₁ e₂ : Int} {p₁ : 0 < m₁} {p₂ : 0 < m₂}
    (hx : x.toModel.unpack = .finite .positive m₁ e₁ p₁)
    (hy : y.toModel.unpack = .finite .positive m₂ e₂ p₂)
    (low₁ : 2 ^ 52 ≤ m₁) (high₁ : m₁ < 2 ^ 53) (low₂ : 2 ^ 52 ≤ m₂) (high₂ : m₂ < 2 ^ 53)
    (eLow : -1126 ≤ e₁ + e₂) (eHigh : e₁ + e₂ ≤ 917) :
    ∃ M j c : Nat, ∃ pos : 0 < M, (x * y).toModel.unpack = .finite .positive M (e₁ + e₂ + j + c) pos ∧
      2 ^ 52 ≤ M ∧ M < 2 ^ 53 ∧ 52 ≤ j ∧ j ≤ 53 ∧ c ≤ 1 ∧
      M * 2 ^ c * 2 ^ j ≤ m₁ * m₂ + 2 ^ j := by
  have pLow : 2 ^ 104 ≤ m₁ * m₂ :=
    calc 2 ^ 104 = 2 ^ 52 * 2 ^ 52 := by norm_num
      _ ≤ m₁ * m₂ := Nat.mul_le_mul low₁ low₂
  have pHigh : m₁ * m₂ < 2 ^ 106 :=
    calc m₁ * m₂ < 2 ^ 53 * 2 ^ 53 := Nat.mul_lt_mul'' high₁ high₂
      _ = 2 ^ 106 := by norm_num
  have logLow : 104 ≤ (m₁ * m₂).log2 := (Nat.le_log2 (by omega)).mpr pLow
  have logHigh : (m₁ * m₂).log2 < 106 := (Nat.log2_lt (by omega)).mpr pHigh
  obtain ⟨M, c, pos, round, mLow, mHigh, carry, overshoot⟩ :=
    roundWithAccuracy_le (m₁ * m₂) ((m₁ * m₂).log2 - 52) (e₁ + e₂) .exact (by omega) (by omega)
  refine ⟨M, (m₁ * m₂).log2 - 52, c, pos, ?_, mLow, mHigh, by omega, by omega, carry, overshoot⟩
  show (Float.Model.pack (UnpackedFloat.mul .binary64 x.toModel.unpack y.toModel.unpack)).unpack = _
  rw [model_unpack_pack, hx, hy]
  simp only [UnpackedFloat.mul]
  rw [show Sign.positive * Sign.positive = Sign.positive from rfl, round,
    unpack_pack_normal M _ pos mLow mHigh (by omega) (by omega)]

/-- The quotient of two positive normal doubles is the quotient mantissa `m₁ · 2^53 / m₂`, of
53 or 54 bits, rounded. -/
theorem unpack_div_le {x y : Float} {m₁ m₂ : Nat} {e₁ e₂ : Int} {p₁ : 0 < m₁} {p₂ : 0 < m₂}
    (hx : x.toModel.unpack = .finite .positive m₁ e₁ p₁)
    (hy : y.toModel.unpack = .finite .positive m₂ e₂ p₂)
    (low₁ : 2 ^ 52 ≤ m₁) (high₁ : m₁ < 2 ^ 53) (low₂ : 2 ^ 52 ≤ m₂) (high₂ : m₂ < 2 ^ 53)
    (eLow : -1021 ≤ e₁ - e₂) (eHigh : e₁ - e₂ ≤ 1022) :
    ∃ M j c : Nat, ∃ pos : 0 < M,
      (x / y).toModel.unpack = .finite .positive M (e₁ - e₂ - 53 + j + c) pos ∧
      2 ^ 52 ≤ M ∧ M < 2 ^ 53 ∧ j ≤ 1 ∧ c ≤ 1 ∧ M * 2 ^ c * 2 ^ j ≤ m₁ * 2 ^ 53 / m₂ + 2 ^ j := by
  have qLow : 2 ^ 52 ≤ m₁ * 2 ^ 53 / m₂ := by
    rw [Nat.le_div_iff_mul_le p₂]
    calc 2 ^ 52 * m₂ ≤ 2 ^ 52 * 2 ^ 53 := Nat.mul_le_mul_left _ (Nat.le_of_lt high₂)
      _ ≤ m₁ * 2 ^ 53 := Nat.mul_le_mul_right _ low₁
  have qHigh : m₁ * 2 ^ 53 / m₂ < 2 ^ 54 := by
    rw [Nat.div_lt_iff_lt_mul p₂]
    calc m₁ * 2 ^ 53 < 2 ^ 53 * 2 ^ 53 := Nat.mul_lt_mul_of_pos_right high₁ (Nat.two_pow_pos 53)
      _ = 2 ^ 54 * 2 ^ 52 := by norm_num
      _ ≤ 2 ^ 54 * m₂ := Nat.mul_le_mul_left _ low₂
  have logLow : 52 ≤ (m₁ * 2 ^ 53 / m₂).log2 := (Nat.le_log2 (by omega)).mpr qLow
  have logHigh : (m₁ * 2 ^ 53 / m₂).log2 < 54 := (Nat.log2_lt (by omega)).mpr qHigh
  obtain ⟨M, c, pos, round, mLow, mHigh, carry, overshoot⟩ :=
    roundWithAccuracy_le (m₁ * 2 ^ 53 / m₂) ((m₁ * 2 ^ 53 / m₂).log2 - 52) (e₁ - e₂ - 53)
      (accuracyOfFraction (m₁ * 2 ^ 53 % m₂) m₂) (by omega) (by omega)
  have jLe : (m₁ * 2 ^ 53 / m₂).log2 - 52 ≤ 1 := by omega
  -- named, so that no unification looks inside the logarithm
  generalize (m₁ * 2 ^ 53 / m₂).log2 - 52 = j at round jLe overshoot
  refine ⟨M, j, c, pos, ?_, mLow, mHigh, jLe, carry, overshoot⟩
  show (Float.Model.pack (UnpackedFloat.div .binary64 x.toModel.unpack y.toModel.unpack)).unpack = _
  rw [model_unpack_pack, hx, hy]
  simp only [UnpackedFloat.div,
    divCore_normal m₁ m₂ e₁ e₂ (log2_of_bounds low₁ high₁) (log2_of_bounds low₂ high₂) eLow]
  rw [show Sign.positive / Sign.positive = Sign.positive from rfl, round,
    unpack_pack_normal M _ pos mLow mHigh (by omega) (by omega)]

/-! ## Truncation -/

theorem toInt_finite_positive (M : Nat) (E : Int) (pos : 0 < M) (nonpos : E ≤ 0) (lo hi : Int) :
    (UnpackedFloat.finite .positive M E pos).toInt lo hi = ((M / 2 ^ (-E).toNat : Nat) : Int) := by
  show roundToInt .positive M E = _
  simp only [roundToInt, decreaseExponent, shiftToExponent]
  rw [show (E - 0).toNat = 0 by omega, Nat.shiftLeft_zero, Int.natCast_zero, Int.sub_zero,
    Int.zero_sub, mantissa_shiftRight, mantissa_ofMantissaAndAccuracy]
  rfl

theorem toNat_ofNatClamp_le_64 (n : Nat) : (UInt64.ofNatClamp n).toNat ≤ n := by
  unfold UInt64.ofNatClamp
  split
  · simp
  · simp only [UInt64.toNat_ofNatLT]
    omega

theorem toNat_ofNatClamp_le_32 (n : Nat) : (UInt32.ofNatClamp n).toNat ≤ n := by
  unfold UInt32.ofNatClamp
  split
  · simp
  · simp only [UInt32.toNat_ofNatLT]
    omega

/-- A positive double of at most 53 significant bits above the point truncates to its whole
part, or less where the word clamps it. -/
theorem toNat_truncate_le {x : Float} {M : Nat} {E : Int} {pos : 0 < M}
    (unpacked : x.toModel.unpack = .finite .positive M E pos) (nonpos : E ≤ 0) :
    x.toUInt64.toNat ≤ M / 2 ^ (-E).toNat ∧ x.toUInt32.toNat ≤ M / 2 ^ (-E).toNat := by
  constructor
  · show (UInt64.ofNatClamp (x.toModel.unpack.toInt 0 _).toNat).toNat ≤ _
    rw [unpacked, toInt_finite_positive M E pos nonpos, Int.toNat_natCast]
    exact toNat_ofNatClamp_le_64 _
  · show (UInt32.ofNatClamp (x.toModel.unpack.toInt 0 _).toNat).toNat ≤ _
    rw [unpacked, toInt_finite_positive M E pos nonpos, Int.toNat_natCast]
    exact toNat_ofNatClamp_le_32 _

/-! ## The numbers a generator draws -/

/-- A double that a draw can be: zero, or a positive normal double `M · 2^-a` at most
`1 - 2^-32`. -/
def IsDraw (r : Float) : Prop :=
  r.toModel.unpack = .zero .positive ∨
    ∃ M a : Nat, ∃ pos : 0 < M, r.toModel.unpack = .finite .positive M (-(a : Int)) pos ∧
      2 ^ 52 ≤ M ∧ M < 2 ^ 53 ∧ a ≤ 84 ∧ M * 2 ^ 32 ≤ 2 ^ a * (2 ^ 32 - 1)

/-- The rounded quotient `n / (2^31 - 2)`, for `n ≤ 2^31 - 3` of `k + 1` bits, stays `2^-32`
below one. At the exponent `k - 83` the exact quotient is `q ≤ n · 2^(83-k) / (2^31 - 2)`,
below `2^(83-k)`, the mantissa of one, by `2^(83-k) / (2^31 - 2)`: about twice the gap of
`2^-32` asked for, and the one unit of the `j ≤ 1` bits that rounding cuts fits in the
other half. -/
theorem quotient_gap {n k q M j c : Nat} (nHigh : n ≤ 2147483645) (kLe : k ≤ 30)
    (quotient : q * 2147483646 ≤ n * 2 ^ (83 - k)) (jLe : j ≤ 1)
    (overshoot : M * 2 ^ c * 2 ^ j ≤ q + 2 ^ j) (mLow : 2 ^ 52 ≤ M) :
    k + j + c ≤ 30 ∧ M * 2 ^ 32 ≤ 2 ^ (83 - k - j - c) * (2 ^ 32 - 1) := by
  have unitSmall : 2 ^ j * 2 ^ 32 ≤ 2 ^ (83 - k) := by
    rw [← Nat.pow_add]
    exact Nat.pow_le_pow_right (by norm_num) (by omega)
  have numerator : n * 2 ^ (83 - k) ≤ 2147483645 * 2 ^ (83 - k) := Nat.mul_le_mul_right _ nHigh
  -- linear in the powers, but with coefficients too large for omega
  have scaled : M * 2 ^ c * 2 ^ j * 2 ^ 32 ≤ 2 ^ (83 - k) * (2 ^ 32 - 1) := by
    rw [show (2 : Nat) ^ 32 - 1 = 4294967295 by norm_num]
    linarith
  -- the mantissa is at least `2^52`, so the scale `2^(c + j)` fits below `2^(83 - k)`
  have exps : 52 + c + j < 83 - k := by
    have below : 2 ^ (52 + c + j) < 2 ^ (83 - k) :=
      calc 2 ^ (52 + c + j) = 2 ^ 52 * 2 ^ c * 2 ^ j := by rw [Nat.pow_add, Nat.pow_add]
        _ ≤ M * 2 ^ c * 2 ^ j := Nat.mul_le_mul_right _ (Nat.mul_le_mul_right _ mLow)
        _ < 2 ^ (83 - k) := by
          rw [show (2 : Nat) ^ 32 - 1 = 4294967295 by norm_num] at scaled
          linarith [Nat.two_pow_pos (83 - k)]
    exact (Nat.pow_lt_pow_iff_right (by norm_num)).mp below
  refine ⟨by omega, Nat.le_of_mul_le_mul_right ?_ (Nat.two_pow_pos (c + j))⟩
  calc M * 2 ^ 32 * 2 ^ (c + j) = M * 2 ^ c * 2 ^ j * 2 ^ 32 := by rw [Nat.pow_add]; ring
    _ ≤ 2 ^ (83 - k) * (2 ^ 32 - 1) := scaled
    _ = 2 ^ (83 - k - j - c) * (2 ^ 32 - 1) * 2 ^ (c + j) := by
      rw [Nat.mul_right_comm, ← Nat.pow_add]
      congr 2
      omega

/-! ## A draw times a whole number -/

/-- The product mantissa of a draw `M · 2^-a ≤ 1 - 2^-32` and of `N = mN · 2^-b`, rounded to
`M'` with a cut of `j` bits and a carry `c`, truncates below `N`: the exact product is
`N · 2^-32` below `N`, far more than the one unit of the cut that rounding adds. -/
theorem product_gap {M a N b M' j c : Nat} (gap : M * 2 ^ 32 ≤ 2 ^ a * (2 ^ 32 - 1))
    (mLow : 2 ^ 52 ≤ M) (nLow : 2 ^ 52 ≤ N * 2 ^ b) (small : N < 2 ^ 32) (jLe : j ≤ 53)
    (overshoot : M' * 2 ^ c * 2 ^ j ≤ M * (N * 2 ^ b) + 2 ^ j) (low : 2 ^ 52 ≤ M') :
    j + c ≤ a + b ∧ M' / 2 ^ (a + b - (j + c)) < N := by
  rw [show (2 : Nat) ^ 32 - 1 = 4294967295 by norm_num] at gap
  have aLow : M ≤ 2 ^ a := by linarith
  have unitSmall : 2 ^ j * 2 ^ 32 < 2 ^ a * (N * 2 ^ b) :=
    calc 2 ^ j * 2 ^ 32 ≤ 2 ^ 53 * 2 ^ 32 :=
          Nat.mul_le_mul_right _ (Nat.pow_le_pow_right (by norm_num) jLe)
      _ < 2 ^ 52 * 2 ^ 52 := by norm_num
      _ ≤ 2 ^ a * (N * 2 ^ b) := Nat.mul_le_mul (le_trans mLow aLow) nLow
  have exact : M * (N * 2 ^ b) * 2 ^ 32 ≤ 2 ^ a * (N * 2 ^ b) * 4294967295 :=
    calc M * (N * 2 ^ b) * 2 ^ 32 = M * 2 ^ 32 * (N * 2 ^ b) := by ring
      _ ≤ 2 ^ a * 4294967295 * (N * 2 ^ b) := Nat.mul_le_mul_right _ gap
      _ = 2 ^ a * (N * 2 ^ b) * 4294967295 := by ring
  have below : M' * 2 ^ c * 2 ^ j < 2 ^ a * (N * 2 ^ b) := by linarith
  -- the result's mantissa is at least `2^52` and `N` below `2^32`, so its scale is small
  have exps : j + c ≤ a + b := by
    have scales : 2 ^ (52 + (j + c)) < 2 ^ (32 + (a + b)) :=
      calc 2 ^ (52 + (j + c)) = 2 ^ 52 * 2 ^ c * 2 ^ j := by rw [Nat.pow_add, Nat.pow_add]; ring
        _ ≤ M' * 2 ^ c * 2 ^ j := Nat.mul_le_mul_right _ (Nat.mul_le_mul_right _ low)
        _ < 2 ^ a * (N * 2 ^ b) := below
        _ ≤ 2 ^ a * (2 ^ 32 * 2 ^ b) := Nat.mul_le_mul_left _ (Nat.mul_le_mul_right _ small.le)
        _ = 2 ^ (32 + (a + b)) := by rw [Nat.pow_add, Nat.pow_add]; ring
    have := (Nat.pow_lt_pow_iff_right (by norm_num)).mp scales
    omega
  refine ⟨exps, (Nat.div_lt_iff_lt_mul (Nat.two_pow_pos _)).mpr ?_⟩
  refine Nat.lt_of_mul_lt_mul_right (a := 2 ^ c * 2 ^ j) ?_
  calc M' * (2 ^ c * 2 ^ j) = M' * 2 ^ c * 2 ^ j := by ring
    _ < 2 ^ a * (N * 2 ^ b) := below
    _ = N * 2 ^ (a + b - (j + c)) * (2 ^ c * 2 ^ j) := by
      rw [Nat.mul_assoc, ← Nat.pow_add, ← Nat.pow_add, show a + b - (j + c) + (c + j) = a + b by omega,
        Nat.pow_add]
      ring

/-- **A draw times `N` truncates below `N`.** For `0 < N < 2^32` and a double `y` that reads
as `N`, the truncation of `r · y` to a 64-bit or a 32-bit word is at most `N - 1`. -/
theorem truncate_mul_lt {r y : Float} {N : Nat} (draw : IsDraw r) (pos : 0 < N)
    (small : N < 2 ^ 32) (hy : y.toModel.unpack = (Float.ofNat N).toModel.unpack) :
    (r * y).toUInt64.toNat < N ∧ (r * y).toUInt32.toNat < N := by
  have hN := unpack_floatOfNat pos (by omega : N < 2 ^ 53)
  rcases draw with zero | ⟨M, a, mPos, hr, mLow, mHigh, aLe, gap⟩
  · -- zero times a positive double is zero, which truncates to zero
    have product : (r * y).toModel.unpack = .zero .positive := by
      show (Float.Model.pack (UnpackedFloat.mul .binary64 r.toModel.unpack y.toModel.unpack)).unpack = _
      rw [zero, hy, hN]
      simp only [UnpackedFloat.mul]
      rfl
    have toInt : (r * y).toModel.unpack.toInt 0 (UInt64.size - 1) = 0 ∧
        (r * y).toModel.unpack.toInt 0 (UInt32.size - 1) = 0 := by
      rw [product]
      exact ⟨rfl, rfl⟩
    constructor
    · show (UInt64.ofNatClamp (_ : Int).toNat).toNat < N
      rw [toInt.1]
      exact pos
    · show (UInt32.ofNatClamp (_ : Int).toNat).toNat < N
      rw [toInt.2]
      exact pos
  · obtain ⟨k52, nLow, nHigh⟩ := normalized_mem_binade pos (by omega : N < 2 ^ 53)
    obtain ⟨M', j, c, pos', product, low, -, -, jHigh, -, overshoot⟩ :=
      unpack_mul_le hr (hy.trans hN) mLow mHigh nLow nHigh (by omega) (by omega)
    obtain ⟨exps, below⟩ := product_gap gap mLow nLow small jHigh overshoot low
    have nonpos : -(a : Int) + (N.log2 - 52 : Int) + j + c ≤ 0 := by omega
    have shift : (-(-(a : Int) + (N.log2 - 52 : Int) + j + c)).toNat = a + (52 - N.log2) - (j + c) := by
      omega
    obtain ⟨trunc64, trunc32⟩ := toNat_truncate_le product nonpos
    rw [shift] at trunc64 trunc32
    exact ⟨Nat.lt_of_le_of_lt trunc64 below, Nat.lt_of_le_of_lt trunc32 below⟩

end Binary64

namespace MinStd

open Binary64

/-- The double of every state below the modulus is a draw. -/
theorem isDraw_unit {g : MinStd} (high : g.state < modulus) : IsDraw g.unit := by
  by_cases two : 2 ≤ g.state
  · right
    obtain ⟨n, hn⟩ : ∃ n, n = g.state - 1 := ⟨_, rfl⟩
    have unit_eq : g.unit = Float.ofNat n / 2147483646.0 := by rw [hn]; rfl
    have nPos : 0 < n := by omega
    have nHigh : n ≤ 2147483645 := by unfold modulus at high; omega
    have kLe : n.log2 ≤ 30 := by
      have := (Nat.log2_lt (Nat.ne_of_gt nPos)).mpr (show n < 2 ^ 31 by omega)
      omega
    obtain ⟨-, mLow, mHigh⟩ := normalized_mem_binade nPos (by omega)
    obtain ⟨M, j, c, pos, quotient, low, high, jLe, -, overshoot⟩ :=
      unpack_div_le (unpack_floatOfNat nPos (by omega)) unpack_divisor mLow mHigh (by decide)
        (by decide) (by omega) (by omega)
    -- the quotient mantissa is `n · 2^(83 - k) / (2^31 - 2)`
    have exact : n * 2 ^ (52 - n.log2) * 2 ^ 53 / (2147483646 * 2 ^ 22) * 2147483646 ≤
        n * 2 ^ (83 - n.log2) := by
      have shifted : n * 2 ^ (52 - n.log2) * 2 ^ 53 = n * 2 ^ (83 - n.log2) * 2 ^ 22 := by
        rw [Nat.mul_assoc, Nat.mul_assoc, ← Nat.pow_add, ← Nat.pow_add]
        congr 2
        omega
      rw [shifted, Nat.mul_div_mul_right _ _ (Nat.two_pow_pos 22)]
      exact Nat.div_mul_le_self _ _
    obtain ⟨small, gap⟩ := quotient_gap nHigh kLe exact jLe overshoot low
    refine ⟨M, 83 - n.log2 - j - c, pos, ?_, low, high, by omega, gap⟩
    rw [unit_eq, quotient]
    congr 1
    omega
  · -- the least states read as zero
    left
    have one : g.state - 1 = 0 := by omega
    show (Float.ofNat (g.state - 1) / 2147483646.0).toModel.unpack = _
    rw [one]
    rfl

end MinStd

end SwapDesk
