import EnvTemplate.Proofs.Number.Decimal
import EnvTemplate.Proofs.Number.Nearest
import Mathlib.Data.Rat.Floor
/-! Integers as numbers: those of 53 bits are numbers themselves, larger ones are rounded, and what
is rounded keeps to the same side of a power of two. -/
namespace EnvTemplate.Binary64

theorem size_congr {x y : Binary64} (same : x.magnitude = y.magnitude) : x.size = y.size := by
  simp only [size, significand, exponent, same]

theorem truncate_eq (x : Binary64) : x.truncate = Decimal.signed x.isNegative ⌊x.size⌋₊ := by
  rw [← ratio_div, Rat.natFloor_natCast_div_natCast]
  rfl

theorem truncate_zero (negative : Bool) : (zero negative).truncate = 0 := by
  rw [truncate_eq, size_zero, Nat.floor_zero]
  cases negative <;> rfl

/-! ### Rounded integers -/

theorem isNegative_ofRatio (negative : Bool) (n d : Nat) :
    (ofRatio negative n d).isNegative = negative := by
  obtain rfl | positive := Nat.eq_zero_or_pos n
  · exact isNegative_ofMagnitude negative (by decide)
  · obtain ⟨q, a, b, _, _, rounded⟩ := ofRatio_spec positive negative d
    rw [rounded]
    exact isNegative_ofMagnitude negative ((Nat.min_le_right _ _).trans_lt infinityMagnitude_lt)

/-- The significand of a quotient that reaches a power of two. -/
theorem ofRatio_of_two_pow_le {n d k : Nat} (divides : 0 < d) (least : (2 : ℚ) ^ k ≤ n / d)
    (negative : Bool) :
    ∃ e s : Nat, k + 1022 ≤ e ∧ Nat.pow 2 52 ≤ s ∧ s ≤ Nat.pow 2 53 ∧ ofRatio negative n d =
      ofMagnitude negative (min (e * Nat.pow 2 52 + s) infinityMagnitude) := by
  have positive : 0 < n := by
    have quotient := (pow_pos (two_pos (α := ℚ)) k).trans_le least
    rw [div_pos_iff_of_pos_right (by exact_mod_cast divides)] at quotient
    exact_mod_cast quotient
  obtain ⟨e, s, most, above, reached, rounded⟩ := ofRatio_significand positive divides negative
  have field : k + 1022 ≤ e := by
    rw [← zpow_natCast] at least
    have order := (zpow_lt_zpow_iff_right₀ one_lt_two).mp (least.trans_lt above)
    omega
  exact ⟨e, s, field, (reached.resolve_left (by omega)).1, most, rounded⟩

theorem ofRatio_of_large {n d : Nat} (divides : 0 < d) (large : (2 : ℚ) ^ 1024 ≤ n / d)
    (negative : Bool) : ofRatio negative n d = infinity negative := by
  obtain ⟨e, s, field, digits, _, rounded⟩ := ofRatio_of_two_pow_le divides large negative
  have beyond : infinityMagnitude ≤ e * Nat.pow 2 52 + s := by
    have unit : Nat.pow 2 52 = 4503599627370496 := rfl
    rw [infinityMagnitude, unit]
    rw [unit] at digits
    omega
  rw [rounded, min_eq_right beyond, infinity]

/-- Rounding does not cross a power of two. -/
theorem two_pow_le_size_ofRatio {n d k : Nat} (divides : 0 < d) (least : (2 : ℚ) ^ k ≤ n / d)
    {negative : Bool} (finite : (ofRatio negative n d).isFinite = true) :
    2 ^ k ≤ (ofRatio negative n d).size := by
  obtain ⟨e, s, field, digits, most, rounded⟩ := ofRatio_of_two_pow_le divides least negative
  have inside := lt_infinityMagnitude (rounded ▸ finite)
  rw [rounded, min_eq_left inside.le, size_ofMagnitude negative (.inr digits) most inside]
  have digits : (2 : ℚ) ^ 52 ≤ s := by exact_mod_cast Nat.pow_eq ▸ digits
  calc (2 : ℚ) ^ k
      = 2 ^ 52 * 2 ^ ((k : Int) - 52) := by
        rw [pow_mul_two_zpow, ← zpow_natCast]
        congr 1
        push_cast
        ring
    _ ≤ 2 ^ 52 * 2 ^ ((e : Int) - 1074) := by
        have order := zpow_le_zpow_right₀ (one_le_two (α := ℚ))
          (show (k : Int) - 52 ≤ e - 1074 by omega)
        gcongr
    _ ≤ s * 2 ^ ((e : Int) - 1074) := by gcongr

/-- What is rounded to a number below a power of two lies below it as well. -/
theorem upperBound_lt_two_pow {x : Binary64} {k : Nat} (below : x.size < 2 ^ k) :
    x.upperBound < 2 ^ k := by
  obtain ⟨e, _, power, _, normal⟩ := x.exists_magnitude_eq
  have order : x.exponent + 53 ≤ k := by
    obtain rfl | digits := normal
    · omega
    · have digits : (2 : ℚ) ^ 52 ≤ x.significand := by exact_mod_cast Nat.pow_eq ▸ digits
      have reached : (2 : ℚ) ^ (x.exponent + 52) ≤ x.size := by
        rw [size, show x.exponent + 52 = x.exponent + (52 : Nat) from rfl, ← pow_mul_two_zpow]
        gcongr
      rw [← zpow_natCast] at below
      have order := (zpow_lt_zpow_iff_right₀ one_lt_two).mp (reached.trans_lt below)
      omega
  rw [← zpow_natCast]
  exact x.upperBound_lt_two_zpow.trans_le (zpow_le_zpow_right₀ one_le_two order)

/-- Numbers of more than 53 bits are integers. -/
theorem exponent_nonneg {x : Binary64} (large : 2 ^ 53 ≤ x.size) : 0 ≤ x.exponent := by
  have above := (large.trans_lt x.size_lt_upperBound).trans x.upperBound_lt_two_zpow
  rw [← zpow_natCast] at above
  have order := (zpow_lt_zpow_iff_right₀ one_lt_two).mp above
  omega

/-! ### Integers of 53 bits -/

/-- Integers of 53 bits are numbers, and so are their products with powers of two. -/
theorem exists_size_eq {m k : Nat} (positive : 0 < m) (most : m ≤ Nat.pow 2 53) (small : k ≤ 970) :
    ∃ x : Binary64, x.isFinite = true ∧ x.isZero = false ∧ x.size = (m * 2 ^ k : Nat) := by
  have unit : Nat.pow 2 52 = 4503599627370496 := rfl
  have double : Nat.pow 2 53 = 9007199254740992 := rfl
  have low := Nat.log2_self_le (Nat.ne_of_gt positive)
  have high := Nat.lt_log2_self (n := m)
  have top : Nat.log2 m < 54 := (Nat.log2_lt (Nat.ne_of_gt positive)).mpr (by omega)
  obtain ⟨shift, gap⟩ : ∃ shift, shift = 52 - Nat.log2 m := ⟨_, rfl⟩
  have normal : Nat.pow 2 52 ≤ m * 2 ^ shift := by
    calc 2 ^ 52 ≤ 2 ^ (Nat.log2 m + shift) := Nat.pow_le_pow_right two_pos (by omega)
      _ = 2 ^ Nat.log2 m * 2 ^ shift := Nat.pow_add _ _ _
      _ ≤ m * 2 ^ shift := Nat.mul_le_mul_right _ low
  have bounded : m * 2 ^ shift ≤ Nat.pow 2 53 := by
    obtain rfl | some := Nat.eq_zero_or_pos shift
    · rwa [Nat.pow_zero, Nat.mul_one]
    · calc m * 2 ^ shift ≤ 2 ^ (Nat.log2 m + 1) * 2 ^ shift := Nat.mul_le_mul_right _ high.le
        _ = 2 ^ (Nat.log2 m + 1 + shift) := (Nat.pow_add _ _ _).symm
        _ = 2 ^ 53 := congrArg _ (by omega)
  have inside : (1074 + k - shift) * Nat.pow 2 52 + m * 2 ^ shift < infinityMagnitude := by
    rw [infinityMagnitude]
    rw [double] at bounded
    rw [unit]
    omega
  have shape := magnitude_ofMagnitude false (inside.trans infinityMagnitude_lt)
  refine ⟨ofMagnitude false ((1074 + k - shift) * Nat.pow 2 52 + m * 2 ^ shift), ?_, ?_, ?_⟩
  · rw [isFinite_iff, shape]
    exact inside
  · rw [isZero, shape, beq_eq_false_iff_ne]
    rw [unit] at normal
    omega
  · have power : ((1074 + k - shift : Nat) : Int) - 1074 = k + -(shift : Int) := by omega
    rw [size_ofMagnitude false (.inr normal) bounded inside, power, zpow_add₀ two_ne_zero, zpow_neg,
      zpow_natCast, zpow_natCast]
    push_cast
    field_simp

theorem ofRatio_one_of_near {x : Binary64} (finite : x.isFinite = true) (nonzero : x.isZero = false)
    {n : Nat} (near : x.Near n) (negative : Bool) :
    ofRatio negative n 1 = ofMagnitude negative x.magnitude := by
  refine ofRatio_of_near finite nonzero Nat.one_pos ?_ negative
  rwa [Nat.cast_one, div_one]

/-- Of the integers of 53 bits, only its own value is near a number. -/
theorem size_eq_of_near {x : Binary64} (finite : x.isFinite = true) (nonzero : x.isZero = false)
    {n : Nat} (near : x.Near n) (most : n ≤ Nat.pow 2 53) : x.size = n := by
  have positive : 0 < n := by
    have above := (lowerBound_pos nonzero).trans_le near.1
    exact_mod_cast above
  obtain ⟨y, bounded, some, integral⟩ := exists_size_eq positive most (Nat.zero_le 970)
  rw [Nat.pow_zero, Nat.mul_one] at integral
  have rounded := ofRatio_one_of_near bounded some (integral ▸ y.near_size) false
  rw [ofRatio_one_of_near finite nonzero near] at rounded
  have same := congrArg magnitude rounded
  rw [magnitude_ofMagnitude false x.magnitude_lt, magnitude_ofMagnitude false y.magnitude_lt] at same
  rw [size_congr same, integral]

/-- An integer is its nearest number exactly if it has 53 bits, apart from zeros at its end. -/
theorem truncate_ofInt_eq_iff {n : Int} (small : n.natAbs < Nat.pow 2 64) :
    (ofInt n).truncate = n ↔ ∃ m k : Nat, m ≤ Nat.pow 2 53 ∧ n.natAbs = m * 2 ^ k := by
  have sign : (ofInt n).isNegative = decide (n < 0) := isNegative_ofRatio _ _ _
  rw [truncate_eq, sign]
  constructor
  · intro same
    have whole := congrArg Int.natAbs same
    rw [Decimal.natAbs_signed] at whole
    rw [← whole]
    obtain integral | fractional := le_or_gt 0 (ofInt n).exponent
    · obtain ⟨k, power⟩ := Int.eq_ofNat_of_zero_le integral
      obtain ⟨_, _, _, most, _⟩ := (ofInt n).exists_magnitude_eq
      rw [size_of_exponent power, Nat.floor_natCast]
      exact ⟨_, k, most.le, rfl⟩
    · have short : (ofInt n).size < 2 ^ 53 := by
        by_contra large
        exact absurd (exponent_nonneg (not_lt.mp large)) (Int.not_le.mpr fractional)
      refine ⟨_, 0, Nat.floor_le_of_le ?_, (Nat.mul_one _).symm⟩
      exact_mod_cast short.le
  · rintro ⟨m, k, most, product⟩
    obtain none | positive := Nat.eq_zero_or_pos n.natAbs
    · obtain rfl := Int.natAbs_eq_zero.mp none
      have shape : ofInt 0 = zero false := rfl
      rw [shape, size_zero, Nat.floor_zero]
      rfl
    have some : 0 < m := Nat.pos_of_mul_pos_right (product ▸ positive)
    have shift : k < 64 := by
      refine (Nat.pow_lt_pow_iff_right (show 1 < 2 by decide)).mp ?_
      exact (Nat.le_mul_of_pos_left _ some).trans_lt (product ▸ small)
    obtain ⟨x, finite, nonzero, integral⟩ := exists_size_eq some most (show k ≤ 970 by omega)
    rw [← product] at integral
    have rounded := ofRatio_one_of_near finite nonzero (integral ▸ x.near_size) (n < 0)
    have shape := magnitude_ofMagnitude (n < 0) x.magnitude_lt
    rw [ofInt, rounded, size_congr shape, integral, Nat.floor_natCast, Decimal.signed_natAbs]

/-! ### Integers of 64 bits -/

open Decimal (minInt64 maxInt64 clampInt64 signed)

/-- The sign of a numeral only matters for the number zero. -/
theorem ofRatio_signed (negative : Bool) (n : Nat) :
    (ofRatio negative n 1).isFinite = (ofInt (signed negative n)).isFinite ∧
      (ofRatio negative n 1).truncate = (ofInt (signed negative n)).truncate := by
  obtain rfl | positive := Nat.eq_zero_or_pos n
  · have number : signed negative 0 = 0 := by cases negative <;> rfl
    have rounded : ofInt 0 = .zero false := rfl
    have read : ofRatio negative 0 1 = .zero negative := rfl
    rw [number, rounded, read, isFinite_zero, isFinite_zero, truncate_zero, truncate_zero]
    exact ⟨rfl, rfl⟩
  · have same : ofInt (signed negative n) = .ofRatio negative n 1 := by
      cases negative with
      | false =>
        have other : decide ((n : Int) < 0) = false := by simp
        simp [ofInt, signed, other]
      | true => simp [ofInt, signed, positive]
    rw [same]
    exact ⟨rfl, rfl⟩

/-- Rounding keeps an integer on its side of the 64-bit range. -/
theorem clampInt64_truncate_ofInt {n : Int} (outside : n < minInt64 ∨ maxInt64 < n)
    (finite : (ofInt n).isFinite = true) : clampInt64 (ofInt n).truncate = clampInt64 n := by
  simp only [minInt64, maxInt64, Nat.pow_eq] at outside
  have large : (2 : ℚ) ^ 63 ≤ (n.natAbs : ℚ) / (1 : Nat) := by
    have least : 2 ^ 63 ≤ n.natAbs := by omega
    rw [Nat.cast_one, div_one]
    exact_mod_cast least
  have reached := two_pow_le_size_ofRatio Nat.one_pos large finite
  have floor : 2 ^ 63 ≤ ⌊(ofInt n).size⌋₊ := by
    refine Nat.le_floor ?_
    push_cast
    exact reached
  have sign : (ofInt n).isNegative = decide (n < 0) := isNegative_ofRatio _ _ _
  rw [truncate_eq, sign, clampInt64, clampInt64]
  congr 1
  simp only [signed, minInt64, maxInt64, Nat.pow_eq, decide_eq_true_eq]
  split <;> omega

/-- The largest integer of 64 bits is rounded up, and then held at itself. -/
theorem clampInt64_truncate_ofInt_eq_iff {n : Int} (least : minInt64 ≤ n) (most : n ≤ maxInt64) :
    clampInt64 (ofInt n).truncate = .ofInt n ↔
      n = maxInt64 ∨ ∃ m k : Nat, m ≤ Nat.pow 2 53 ∧ n.natAbs = m * 2 ^ k := by
  have small := Decimal.natAbs_lt_of_range least most
  have number : (Int64.ofInt n).toInt = n := by
    simp only [minInt64, maxInt64, Nat.pow_eq] at least most
    exact Int64.toInt_ofInt_of_le (by omega) (by omega)
  have lowest : n = minInt64 → (ofInt n).truncate = n := by
    rintro rfl
    exact (truncate_ofInt_eq_iff small).mpr ⟨1, 63, by decide, rfl⟩
  have highest : (ofInt maxInt64).truncate = maxInt64 + 1 := by decide
  rw [← truncate_ofInt_eq_iff small, ← Int64.toInt_inj, number, Decimal.toInt_clampInt64]
  constructor
  · intro held
    by_cases low : n = minInt64
    · exact .inr (lowest low)
    · omega
  · rintro (rfl | exact)
    · rw [highest]
      omega
    · rw [exact]
      omega

end EnvTemplate.Binary64
