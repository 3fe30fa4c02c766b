import EnvTemplate.Proofs.Number.Rounding
/-! Which quotients are rounded to a given number: those between the middles of the gaps beside it,
and the middles themselves if its significand is even. -/
namespace EnvTemplate.Binary64

/-! ### Nearest integers -/

theorem divideToNearest_eq {n d m : Nat} (positive : 0 < d) (least : 2 * (m * d) ≤ 2 * n + d)
    (most : 2 * n ≤ 2 * (m * d) + d)
    (odd : m % 2 = 1 → 2 * (m * d) < 2 * n + d ∧ 2 * n < 2 * (m * d) + d) :
    divideToNearest n d = m := by
  have whole := Nat.div_add_mod n d
  have rest := Nat.mod_lt n positive
  have shape : divideToNearest n d =
      if 2 * (n % d) < d then n / d
      else if d < 2 * (n % d) then n / d + 1 else n / d + n / d % 2 := rfl
  rw [shape]
  generalize n / d = q at *
  generalize n % d = r at *
  rw [Nat.mul_comm d q] at whole
  have below : q ≤ m := by
    by_contra above
    have step := Nat.mul_le_mul_right d (show m + 1 ≤ q by omega)
    rw [Nat.add_mul] at step
    omega
  have above : m ≤ q + 1 := by
    by_contra below
    have step := Nat.mul_le_mul_right d (show q + 2 ≤ m by omega)
    rw [Nat.add_mul] at step
    omega
  obtain rfl | rfl : m = q ∨ m = q + 1 := by omega
  · split
    · rfl
    split <;> omega
  · rw [Nat.add_mul] at *
    split
    · omega
    split <;> omega

def RoundsTo (r : ℚ) (m : Nat) : Prop :=
  (m : ℚ) - 1 / 2 ≤ r ∧ r ≤ m + 1 / 2 ∧ (m % 2 = 1 → (m : ℚ) - 1 / 2 < r ∧ r < m + 1 / 2)

theorem divideToNearest_of_roundsTo {n d m : Nat} (positive : 0 < d)
    (rounds : RoundsTo (n / d) m) : divideToNearest n d = m := by
  have low : (0 : ℚ) < d := by exact_mod_cast positive
  obtain ⟨least, most, odd⟩ := rounds
  rw [le_div_iff₀ low] at least
  rw [div_le_iff₀ low] at most
  refine divideToNearest_eq positive ?_ ?_ fun uneven => ?_
  · have scaled : (2 : ℚ) * (m * d) ≤ 2 * n + d := by linarith
    exact_mod_cast scaled
  · have scaled : (2 : ℚ) * n ≤ 2 * (m * d) + d := by linarith
    exact_mod_cast scaled
  · obtain ⟨least, most⟩ := odd uneven
    rw [lt_div_iff₀ low] at least
    rw [div_lt_iff₀ low] at most
    constructor
    · have scaled : (2 : ℚ) * (m * d) < 2 * n + d := by linarith
      exact_mod_cast scaled
    · have scaled : (2 : ℚ) * n < 2 * (m * d) + d := by linarith
      exact_mod_cast scaled

/-! ### Nearest numbers -/

/-- The exponent is determined by the size of the quotient. -/
theorem roundingExponent_eq {n d e : Nat} (positive : 0 < n) (divides : 0 < d)
    (most : (n : ℚ) / d < 2 ^ ((e : Int) - 1021))
    (least : e = 0 ∨ (2 : ℚ) ^ ((e : Int) - 1022) ≤ n / d) :
    roundingExponent n d = (e : Int) - 1074 := by
  obtain ⟨above, reached⟩ := roundingExponent_spec positive divides
  generalize roundingExponent n d = q at *
  have upper : q ≤ (e : Int) - 1074 := by
    obtain rfl | ⟨_, reached⟩ := reached
    · omega
    · have order := (zpow_lt_zpow_iff_right₀ one_lt_two).mp (reached.trans_lt most)
      omega
  have lower : (e : Int) - 1074 ≤ q := by
    obtain rfl | least := least
    · obtain rfl | ⟨_, _⟩ := reached <;> omega
    · have order := (zpow_lt_zpow_iff_right₀ one_lt_two).mp (least.trans_lt above)
      omega
  omega

theorem pow_mul_two_zpow (k : Nat) (q : Int) : (2 : ℚ) ^ k * 2 ^ q = 2 ^ (q + k) := by
  rw [zpow_add₀ two_ne_zero, zpow_natCast, mul_comm]

/-- A quotient is rounded to the significand that it rounds to in units of the last place. -/
theorem ofRatio_eq {n d e s : Nat} (positive : 0 < n) (divides : 0 < d)
    (most : (n : ℚ) / d / 2 ^ ((e : Int) - 1074) < 2 ^ 53)
    (least : e = 0 ∨ 2 ^ 52 ≤ (n : ℚ) / d / 2 ^ ((e : Int) - 1074))
    (near : RoundsTo (n / d / 2 ^ ((e : Int) - 1074)) s) (negative : Bool) :
    ofRatio negative n d = ofMagnitude negative (min (e * Nat.pow 2 52 + s) infinityMagnitude) := by
  have unit := two_zpow_pos ((e : Int) - 1074)
  rw [div_lt_iff₀ unit, pow_mul_two_zpow] at most
  rw [le_div_iff₀ unit, pow_mul_two_zpow] at least
  have upper : (e : Int) - 1074 + (53 : Nat) = e - 1021 := by omega
  have lower : (e : Int) - 1074 + (52 : Nat) = e - 1022 := by omega
  rw [upper] at most
  rw [lower] at least
  obtain ⟨q, a, b, chosen, scaled, rounded⟩ := ofRatio_spec positive negative d
  rw [roundingExponent_eq positive divides most least] at chosen
  subst chosen
  have quotient := scaleDown_div scaled
  rw [← quotient] at near
  have field : ((e : Int) - 1074 + 1074).toNat = e := by omega
  rw [rounded, field, divideToNearest_of_roundsTo (scaleDown_pos divides scaled) near]

/-- The bound below which a quotient is no longer rounded to a positive number. The gap below the
first significand of an exponent is half as wide, unless the exponent is the least one. -/
def lowerBound (x : Binary64) : ℚ :=
  (x.significand -
      if x.significand = Nat.pow 2 52 ∧ Nat.pow 2 53 ≤ x.magnitude then 1 / 4 else 1 / 2) *
    2 ^ x.exponent

def upperBound (x : Binary64) : ℚ :=
  (x.significand + 1 / 2) * 2 ^ x.exponent

def Near (x : Binary64) (r : ℚ) : Prop :=
  x.lowerBound ≤ r ∧ r ≤ x.upperBound ∧
    (x.significand % 2 = 1 → x.lowerBound < r ∧ r < x.upperBound)

/-- The fields of a magnitude: an exponent above the least one has a significand of 53 bits. -/
theorem exists_magnitude_eq (x : Binary64) :
    ∃ e : Nat, x.magnitude = e * Nat.pow 2 52 + x.significand ∧ x.exponent = (e : Int) - 1074 ∧
      x.significand < Nat.pow 2 53 ∧ (e = 0 ∨ Nat.pow 2 52 ≤ x.significand) := by
  have unit : Nat.pow 2 52 = 4503599627370496 := rfl
  have double : Nat.pow 2 53 = 9007199254740992 := rfl
  refine ⟨x.magnitude / Nat.pow 2 52 - 1, ?_⟩
  rw [significand, exponent, unit, double]
  split <;> omega

theorem significand_pos {x : Binary64} (nonzero : x.isZero = false) : 0 < x.significand := by
  have some : x.magnitude ≠ 0 := by simpa [isZero] using nonzero
  rw [significand]
  split
  · exact Nat.pos_of_ne_zero some
  · exact Nat.add_pos_right _ (by decide)

theorem lowerBound_pos {x : Binary64} (nonzero : x.isZero = false) : 0 < x.lowerBound := by
  have some : (1 : ℚ) ≤ x.significand := by exact_mod_cast significand_pos nonzero
  refine mul_pos ?_ (two_zpow_pos _)
  split <;> linarith

theorem size_of_exponent {x : Binary64} {k : Nat} (power : x.exponent = k) :
    x.size = (x.significand * 2 ^ k : Nat) := by
  rw [size, power, zpow_natCast]
  push_cast
  rfl

theorem size_pos {x : Binary64} (nonzero : x.isZero = false) : 0 < x.size := by
  have some : (0 : ℚ) < x.significand := by exact_mod_cast significand_pos nonzero
  exact mul_pos some (two_zpow_pos _)

theorem lowerBound_lt_size (x : Binary64) : x.lowerBound < x.size := by
  refine mul_lt_mul_of_pos_right ?_ (two_zpow_pos _)
  split <;> linarith

theorem size_lt_upperBound (x : Binary64) : x.size < x.upperBound :=
  mul_lt_mul_of_pos_right (by linarith) (two_zpow_pos _)

theorem near_size (x : Binary64) : x.Near x.size :=
  ⟨x.lowerBound_lt_size.le, x.size_lt_upperBound.le,
    fun _ => ⟨x.lowerBound_lt_size, x.size_lt_upperBound⟩⟩

theorem upperBound_lt_two_zpow (x : Binary64) : x.upperBound < 2 ^ (x.exponent + 53) := by
  obtain ⟨_, _, _, most, _⟩ := x.exists_magnitude_eq
  have digits : (x.significand : ℚ) + 1 ≤ 2 ^ 53 := by
    have step : x.significand + 1 ≤ 2 ^ 53 := most
    exact_mod_cast step
  calc x.upperBound
      < 2 ^ 53 * 2 ^ x.exponent := mul_lt_mul_of_pos_right (by linarith) (two_zpow_pos _)
    _ = 2 ^ (x.exponent + 53) := pow_mul_two_zpow 53 x.exponent

/-- In units of the last place but one a quotient is twice as large. -/
theorem div_two_zpow_succ (r : ℚ) (f : Nat) :
    r / 2 ^ ((f : Int) - 1074) = 2 * (r / 2 ^ (((f + 1 : Nat) : Int) - 1074)) := by
  have next : ((f + 1 : Nat) : Int) - 1074 = (f : Int) - 1074 + (1 : Nat) := by omega
  rw [next, ← pow_mul_two_zpow]
  field_simp

/-- A quotient right below the first significand of an exponent is rounded up to it. -/
theorem ofRatio_eq_of_below {n d f : Nat} (positive : 0 < n) (divides : 0 < d)
    (below : (n : ℚ) / d / 2 ^ (((f + 1 : Nat) : Int) - 1074) < 2 ^ 52)
    (near : (2 : ℚ) ^ 52 - 1 / 4 ≤ n / d / 2 ^ (((f + 1 : Nat) : Int) - 1074)) (negative : Bool) :
    ofRatio negative n d =
      ofMagnitude negative (min (f * Nat.pow 2 52 + Nat.pow 2 53) infinityMagnitude) := by
  have rounds : RoundsTo (n / d / 2 ^ ((f : Int) - 1074)) (Nat.pow 2 53) := by
    have last : ((Nat.pow 2 53 : Nat) : ℚ) = 2 ^ 53 := by norm_num [Nat.pow_eq]
    rw [div_two_zpow_succ, RoundsTo, last]
    exact ⟨by linarith, by linarith, fun uneven => absurd uneven (by decide)⟩
  refine ofRatio_eq positive divides ?_ (.inr ?_) rounds negative
  · rw [div_two_zpow_succ]
    linarith
  · rw [div_two_zpow_succ]
    linarith

theorem ofRatio_of_near {x : Binary64} (finite : x.isFinite = true) (nonzero : x.isZero = false)
    {n d : Nat} (divides : 0 < d) (near : x.Near (n / d)) (negative : Bool) :
    ofRatio negative n d = ofMagnitude negative x.magnitude := by
  have inside : x.magnitude < infinityMagnitude := isFinite_iff.mp finite
  have above := lowerBound_pos nonzero
  obtain ⟨low, high, odd⟩ := near
  have positive : 0 < n := by
    have quotient := above.trans_le low
    rw [div_pos_iff_of_pos_right (by exact_mod_cast divides)] at quotient
    exact_mod_cast quotient
  obtain ⟨e, shape, power, most, least⟩ := x.exists_magnitude_eq
  rw [lowerBound, power] at low odd
  rw [upperBound, power] at high odd
  generalize x.significand = s at *
  -- all bounds are compared in units of the last place
  have unit := two_zpow_pos ((e : Int) - 1074)
  rw [← le_div_iff₀ unit, sub_le_iff_le_add] at low
  rw [← div_le_iff₀ unit] at high
  rw [← lt_div_iff₀ unit, ← div_lt_iff₀ unit, sub_lt_iff_lt_add] at odd
  have whole : (s : ℚ) ≤ 2 ^ 53 - 1 := by
    have step : s + 1 ≤ 2 ^ 53 := most
    have cast : (s : ℚ) + 1 ≤ 2 ^ 53 := by exact_mod_cast step
    linarith
  have gap : (if s = Nat.pow 2 52 ∧ Nat.pow 2 53 ≤ x.magnitude then (1 : ℚ) / 4 else 1 / 2) ≤
      1 / 2 := by
    split <;> norm_num
  by_cases reached : e = 0 ∨ (2 : ℚ) ^ 52 ≤ n / d / 2 ^ ((e : Int) - 1074)
  · have rounds : RoundsTo (n / d / 2 ^ ((e : Int) - 1074)) s := by
      refine ⟨by linarith, high, fun uneven => ⟨?_, (odd uneven).2⟩⟩
      linarith [(odd uneven).1]
    rw [ofRatio_eq positive divides (by linarith) reached rounds, ← shape, min_eq_left inside.le]
  · -- the quotient lies below the exponent, so the significand is the first one
    obtain ⟨some, short⟩ := not_or.mp reached
    have first : s = Nat.pow 2 52 := by
      refine Nat.le_antisymm ?_ (least.resolve_left some)
      have limit : (s : ℚ) < 2 ^ 52 + 1 := by linarith
      have cast : s < 2 ^ 52 + 1 := by exact_mod_cast limit
      rw [Nat.pow_eq]
      omega
    subst first
    obtain ⟨f, rfl⟩ := Nat.exists_eq_succ_of_ne_zero some
    have double : f * Nat.pow 2 52 + Nat.pow 2 53 = x.magnitude := by
      have powers : Nat.pow 2 53 = Nat.pow 2 52 + Nat.pow 2 52 := by decide
      rw [shape, powers, Nat.succ_mul, Nat.add_assoc]
    have large : Nat.pow 2 53 ≤ x.magnitude := by
      rw [← double]
      exact Nat.le_add_left _ _
    have value : ((Nat.pow 2 52 : Nat) : ℚ) = 2 ^ 52 := by norm_num [Nat.pow_eq]
    rw [if_pos ⟨rfl, large⟩, value, ← sub_le_iff_le_add] at low
    rw [ofRatio_eq_of_below positive divides (not_le.mp short) low, double, min_eq_left inside.le]

/-! ### Numbers by their size -/

theorem isNegative_ofMagnitude (negative : Bool) {m : Nat} (most : m < Nat.pow 2 63) :
    (ofMagnitude negative m).isNegative = negative := by
  have bound : Nat.pow 2 63 = 9223372036854775808 := rfl
  rw [bound] at most
  rw [isNegative, ofMagnitude, bound]
  cases negative with
  | false =>
    have small : (if false = true then 9223372036854775808 else 0) + m < 2 ^ 64 := by simp; omega
    rw [UInt64.toNat_ofNat_of_lt' small]
    simpa using most
  | true =>
    have small : (if true = true then 9223372036854775808 else 0) + m < 2 ^ 64 := by simp; omega
    rw [UInt64.toNat_ofNat_of_lt' small]
    simp

theorem ofMagnitude_magnitude (x : Binary64) : ofMagnitude x.isNegative x.magnitude = x := by
  have bound : Nat.pow 2 63 = 9223372036854775808 := rfl
  have limit := x.bits.toNat_lt
  have same : (if x.isNegative then Nat.pow 2 63 else 0) + x.magnitude = x.bits.toNat := by
    rw [isNegative, magnitude, bound]
    by_cases high : 9223372036854775808 ≤ x.bits.toNat
    · simp only [high, decide_true, if_true]
      omega
    · simp only [high, decide_false]
      simp
      omega
  rw [ofMagnitude, same, UInt64.ofNat_toNat]

theorem eq_zero {x : Binary64} (none : x.isZero = true) : x = zero x.isNegative := by
  have none : x.magnitude = 0 := by simpa [isZero] using none
  rw [zero, ← none, ofMagnitude_magnitude]

end EnvTemplate.Binary64
