import EnvTemplate.Number.Binary64
import Mathlib.Algebra.Order.Field.Power
import Mathlib.Algebra.Order.Field.Rat
import Mathlib.Data.Rat.Cast.Order
import Mathlib.Tactic.FieldSimp
import Mathlib.Tactic.Linarith
import Mathlib.Tactic.NormNum
import Mathlib.Tactic.Positivity
import Mathlib.Tactic.Ring
/-! Rounded quotients of natural numbers. The number nearest to a quotient is its significand on the
grid of the chosen exponent, so the size of a quotient bounds the size of the number. -/
namespace EnvTemplate.Binary64

/-! ### Magnitudes -/

theorem infinityMagnitude_lt : infinityMagnitude < Nat.pow 2 63 := by decide

theorem magnitude_lt (x : Binary64) : x.magnitude < Nat.pow 2 63 :=
  Nat.mod_lt _ (by decide)

theorem magnitude_ofMagnitude (negative : Bool) {m : Nat} (most : m < Nat.pow 2 63) :
    (ofMagnitude negative m).magnitude = m := by
  have bound : Nat.pow 2 63 = 9223372036854775808 := rfl
  rw [bound] at most
  rw [magnitude, ofMagnitude, bound]
  cases negative with
  | false =>
    have small : (if false = true then 9223372036854775808 else 0) + m < 2 ^ 64 := by simp; omega
    rw [UInt64.toNat_ofNat_of_lt' small]
    simp
    omega
  | true =>
    have small : (if true = true then 9223372036854775808 else 0) + m < 2 ^ 64 := by simp; omega
    rw [UInt64.toNat_ofNat_of_lt' small]
    simp
    omega

theorem isFinite_iff {x : Binary64} : x.isFinite = true ↔ x.magnitude < infinityMagnitude := by
  simp [isFinite]

theorem lt_infinityMagnitude {negative : Bool} {m : Nat}
    (finite : (ofMagnitude negative (min m infinityMagnitude)).isFinite = true) :
    m < infinityMagnitude := by
  have limit := Nat.min_le_right m infinityMagnitude
  rw [isFinite_iff, magnitude_ofMagnitude _ (limit.trans_lt infinityMagnitude_lt)] at finite
  exact (min_lt_iff.mp finite).resolve_right (Nat.lt_irrefl _)

theorem isFinite_neg (x : Binary64) : x.neg.isFinite = x.isFinite := by
  rw [isFinite, neg, magnitude_ofMagnitude _ x.magnitude_lt, isFinite]

theorem isFinite_zero (negative : Bool) : (zero negative).isFinite = true := by
  cases negative <;> decide

/-- Rounding, with names for the exponent and the scaled quotient: a statement that projects them
out of the definition makes the kernel compute them. -/
theorem ofRatio_spec {n : Nat} (positive : 0 < n) (negative : Bool) (d : Nat) :
    ∃ q a b, roundingExponent n d = q ∧ scaleDown n d q = (a, b) ∧ ofRatio negative n d =
      ofMagnitude negative
        (min ((q + 1074).toNat * Nat.pow 2 52 + divideToNearest a b) infinityMagnitude) := by
  obtain ⟨q, exponent⟩ : ∃ q, roundingExponent n d = q := ⟨_, rfl⟩
  obtain ⟨⟨a, b⟩, scaled⟩ : ∃ pair, scaleDown n d q = pair := ⟨_, rfl⟩
  refine ⟨q, a, b, exponent, scaled, ?_⟩
  rw [ofRatio, if_neg (Nat.ne_of_gt positive), exponent]
  dsimp only
  rw [scaled]

/-- No quotient is rounded to a NaN. -/
theorem isFinite_ofRatio_of_not_isInfinite {negative : Bool} {n d : Nat}
    (bounded : (ofRatio negative n d).isInfinite = false) :
    (ofRatio negative n d).isFinite = true := by
  obtain rfl | positive := Nat.eq_zero_or_pos n
  · exact isFinite_zero negative
  · obtain ⟨q, a, b, _, _, rounded⟩ := ofRatio_spec positive negative d
    have most := Nat.min_le_right ((q + 1074).toNat * Nat.pow 2 52 + divideToNearest a b)
      infinityMagnitude
    have magnitude := magnitude_ofMagnitude negative (most.trans_lt infinityMagnitude_lt)
    rw [← rounded] at magnitude
    have different : (ofRatio negative n d).magnitude ≠ infinityMagnitude := by
      simpa [isInfinite] using bounded
    rw [isFinite_iff]
    exact Nat.lt_of_le_of_ne (magnitude ▸ most) different

/-! ### The value of a finite number -/

def size (x : Binary64) : ℚ :=
  x.significand * 2 ^ x.exponent

theorem two_zpow_pos (q : Int) : (0 : ℚ) < 2 ^ q := by positivity

theorem ratio_div (x : Binary64) : (x.ratio.1 : ℚ) / x.ratio.2 = x.size := by
  rw [ratio, size]
  cases x.exponent with
  | ofNat k => simp [Nat.pow_eq]
  | negSucc k =>
    rw [zpow_negSucc]
    simp [Nat.pow_eq, div_eq_mul_inv]

/-- A significand and its exponent are kept by a magnitude, also when the significand is the first
of the next exponent. -/
theorem size_ofMagnitude (negative : Bool) {e s : Nat} (normal : e = 0 ∨ Nat.pow 2 52 ≤ s)
    (most : s ≤ Nat.pow 2 53) (finite : e * Nat.pow 2 52 + s < infinityMagnitude) :
    (ofMagnitude negative (e * Nat.pow 2 52 + s)).size = s * 2 ^ ((e : Int) - 1074) := by
  have shape := magnitude_ofMagnitude negative (finite.trans infinityMagnitude_lt)
  have unit : Nat.pow 2 52 = 4503599627370496 := rfl
  have double : Nat.pow 2 53 = 9007199254740992 := rfl
  rw [size, significand, exponent, shape, unit]
  rw [unit] at normal
  rw [double] at most
  obtain rfl | below := most.eq_or_lt
  · have field : (e * 4503599627370496 + 9007199254740992) / 4503599627370496 = e + 2 := by omega
    have rest : (e * 4503599627370496 + 9007199254740992) % 4503599627370496 = 0 := by omega
    have power : ((max (e + 2) 1 : Nat) : Int) - 1075 = (e : Int) - 1074 + 1 := by omega
    rw [if_neg (by omega), field, rest, power, zpow_add_one₀ two_ne_zero]
    push_cast
    ring
  · by_cases subnormal : s < 4503599627370496
    · obtain rfl : e = 0 := by omega
      have field : (0 * 4503599627370496 + s) / 4503599627370496 = 0 := by omega
      rw [if_pos (by omega), field]
      simp
    · have field : (e * 4503599627370496 + s) / 4503599627370496 = e + 1 := by omega
      have rest : (e * 4503599627370496 + s) % 4503599627370496 + 4503599627370496 = s := by omega
      have power : ((max (e + 1) 1 : Nat) : Int) - 1075 = (e : Int) - 1074 := by omega
      rw [if_neg (by omega), field, rest, power]

/-! ### Rounding -/

theorem scaleDown_div {n d a b : Nat} {q : Int} (scaled : scaleDown n d q = (a, b)) :
    (a : ℚ) / b = n / d / 2 ^ q := by
  cases q with
  | ofNat k =>
    obtain ⟨rfl, rfl⟩ := Prod.mk.inj scaled
    simp [Nat.pow_eq, div_div]
  | negSucc k =>
    obtain ⟨rfl, rfl⟩ := Prod.mk.inj scaled
    rw [zpow_negSucc]
    simp [Nat.pow_eq, div_eq_mul_inv]
    ring

theorem scaleDown_pos {n d a b : Nat} {q : Int} (positive : 0 < d)
    (scaled : scaleDown n d q = (a, b)) : 0 < b := by
  cases q with
  | ofNat k =>
    obtain ⟨rfl, rfl⟩ := Prod.mk.inj scaled
    exact Nat.mul_pos positive (Nat.pow_pos (by decide))
  | negSucc k =>
    obtain ⟨rfl, rfl⟩ := Prod.mk.inj scaled
    exact positive

theorem divideToNearest_le {n d m : Nat} (most : n ≤ m * d) : divideToNearest n d ≤ m := by
  have whole := Nat.div_add_mod n d
  have quotient : n / d ≤ m := Nat.div_le_of_le_mul (Nat.mul_comm m d ▸ most)
  obtain exact | below := quotient.eq_or_lt
  · -- nothing is left to round up
    have rest : n % d = 0 := by
      rw [exact, Nat.mul_comm] at whole
      omega
    rw [divideToNearest, rest, exact]
    obtain rfl | positive := Nat.eq_zero_or_pos d
    · simp at exact
      simp [← exact]
    · rw [if_pos (by omega)]
  · rw [divideToNearest]
    split
    · omega
    split <;> omega

theorem le_divideToNearest {n d m : Nat} (positive : 0 < d) (least : m * d ≤ n) :
    m ≤ divideToNearest n d := by
  have quotient : m ≤ n / d := (Nat.le_div_iff_mul_le positive).mpr least
  rw [divideToNearest]
  split
  · exact quotient
  split <;> omega

/-- The binary logarithms of two numbers bound their quotient. -/
theorem two_zpow_lt_div {n d : Nat} (positive : 0 < n) (divides : 0 < d) :
    (2 : ℚ) ^ ((Nat.log2 n : Int) - (Nat.log2 d + 1 : Nat)) < n / d := by
  have least : (2 : ℚ) ^ Nat.log2 n ≤ n := by exact_mod_cast Nat.log2_self_le (by omega)
  have most : (d : ℚ) < 2 ^ (Nat.log2 d + 1) := by exact_mod_cast Nat.lt_log2_self
  have low : (0 : ℚ) < d := by exact_mod_cast divides
  rw [zpow_sub₀ two_ne_zero, zpow_natCast, zpow_natCast, div_lt_div_iff₀ (by positivity) low]
  exact mul_lt_mul' least most low.le (by exact_mod_cast positive)

theorem div_lt_two_zpow {n d : Nat} (divides : 0 < d) :
    (n : ℚ) / d < 2 ^ ((Nat.log2 n + 1 : Nat) - (Nat.log2 d : Int)) := by
  have least : (2 : ℚ) ^ Nat.log2 d ≤ d := by exact_mod_cast Nat.log2_self_le (by omega)
  have most : (n : ℚ) < 2 ^ (Nat.log2 n + 1) := by exact_mod_cast Nat.lt_log2_self
  have low : (0 : ℚ) < d := by exact_mod_cast divides
  rw [zpow_sub₀ two_ne_zero, zpow_natCast, zpow_natCast, div_lt_div_iff₀ low (by positivity)]
  exact mul_lt_mul most least (by positivity) (by positivity)

/-- Before it is held at `-1074`, the exponent puts the significand between `2 ^ 52` and
`2 ^ 53`. -/
theorem roundingExponent_eq_max {n d : Nat} (positive : 0 < n) (divides : 0 < d) :
    ∃ q, roundingExponent n d = max q (-1074) ∧
      (2 : ℚ) ^ (q + 52) ≤ n / d ∧ (n : ℚ) / d < 2 ^ (q + 53) := by
  obtain ⟨q, guess⟩ : ∃ q, q = (Nat.log2 n : Int) - Nat.log2 d - 53 := ⟨_, rfl⟩
  obtain ⟨⟨a, b⟩, scaled⟩ : ∃ pair, scaleDown n d q = pair := ⟨_, rfl⟩
  have chosen : roundingExponent n d =
      max (if b * Nat.pow 2 53 ≤ a then q + 1 else q) (-1074) := by
    rw [roundingExponent, ← guess, scaled]
  have least : (2 : ℚ) ^ (q + 52) < n / d := by
    convert two_zpow_lt_div positive divides using 2
    push_cast
    omega
  have most : (n : ℚ) / d < 2 ^ (q + 54) := by
    convert div_lt_two_zpow divides using 2
    push_cast
    omega
  have quotient := scaleDown_div scaled
  have low : (0 : ℚ) < b := by exact_mod_cast scaleDown_pos divides scaled
  have test : b * Nat.pow 2 53 ≤ a ↔ (2 : ℚ) ^ (q + 53) ≤ n / d := by
    have cast : b * Nat.pow 2 53 ≤ a ↔ (2 : ℚ) ^ (53 : Int) * b ≤ a := by
      rw [Nat.mul_comm, ← Nat.cast_le (α := ℚ)]
      norm_num [Nat.pow_eq]
    rw [cast, ← le_div_iff₀ low, quotient, le_div_iff₀ (two_zpow_pos q),
      ← zpow_add₀ two_ne_zero, add_comm]
  by_cases large : b * Nat.pow 2 53 ≤ a
  · refine ⟨q + 1, by rw [chosen, if_pos large], ?_, ?_⟩
    · have reached := test.mp large
      rwa [show q + 1 + 52 = q + 53 by ring]
    · rwa [show q + 1 + 53 = q + 54 by ring]
  · exact ⟨q, by rw [chosen, if_neg large], least.le, not_le.mp (mt test.mpr large)⟩

/-- The chosen exponent is `-1074`, or more if the significand needs its 53 bits. -/
theorem roundingExponent_spec {n d : Nat} (positive : 0 < n) (divides : 0 < d) :
    (n : ℚ) / d < 2 ^ (roundingExponent n d + 53) ∧
      (roundingExponent n d = -1074 ∨
        -1074 < roundingExponent n d ∧ (2 : ℚ) ^ (roundingExponent n d + 52) ≤ n / d) := by
  obtain ⟨q, chosen, least, most⟩ := roundingExponent_eq_max positive divides
  rw [chosen]
  refine ⟨most.trans_le (zpow_le_zpow_right₀ one_le_two (by omega)), ?_⟩
  by_cases low : q ≤ -1074
  · exact Or.inl (max_eq_right low)
  · rw [max_eq_left (by omega)]
    exact Or.inr ⟨by omega, least⟩

/-- The significand that a quotient is rounded to, on the grid that its size asks for. -/
theorem ofRatio_significand {n d : Nat} (positive : 0 < n) (divides : 0 < d) (negative : Bool) :
    ∃ e s : Nat, s ≤ Nat.pow 2 53 ∧ (n : ℚ) / d < 2 ^ ((e : Int) - 1021) ∧
      (e = 0 ∨ Nat.pow 2 52 ≤ s ∧ (2 : ℚ) ^ ((e : Int) - 1022) ≤ n / d) ∧
      ofRatio negative n d =
        ofMagnitude negative (min (e * Nat.pow 2 52 + s) infinityMagnitude) := by
  obtain ⟨q, a, b, chosen, scaled, rounded⟩ := ofRatio_spec positive negative d
  obtain ⟨most, least⟩ := roundingExponent_spec positive divides
  rw [chosen] at most least
  obtain ⟨e, rfl⟩ : ∃ e : Nat, q = (e : Int) - 1074 := ⟨(q + 1074).toNat, by omega⟩
  have field : ((e : Int) - 1074 + 1074).toNat = e := by omega
  rw [field] at rounded
  have quotient := scaleDown_div scaled
  have low := scaleDown_pos divides scaled
  have lowRat : (0 : ℚ) < b := by exact_mod_cast low
  rw [show (e : Int) - 1074 + 53 = (e : Int) - 1021 by ring] at most
  rw [show (e : Int) - 1074 + 52 = (e : Int) - 1022 by ring] at least
  have split53 : (2 : ℚ) ^ ((e : Int) - 1021) = 2 ^ 53 * 2 ^ ((e : Int) - 1074) := by
    rw [← zpow_natCast, ← zpow_add₀ two_ne_zero]
    congr 1
    push_cast
    ring
  have split52 : (2 : ℚ) ^ ((e : Int) - 1022) = 2 ^ 52 * 2 ^ ((e : Int) - 1074) := by
    rw [← zpow_natCast, ← zpow_add₀ two_ne_zero]
    congr 1
    push_cast
    ring
  refine ⟨e, divideToNearest a b, divideToNearest_le ?_, most, ?_, rounded⟩
  · rw [split53, ← div_lt_iff₀ (two_zpow_pos _), ← quotient, div_lt_iff₀ lowRat] at most
    rw [Nat.pow_eq]
    exact_mod_cast most.le
  · refine least.imp (by omega) fun ⟨_, reached⟩ => ⟨le_divideToNearest low ?_, reached⟩
    rw [split52, ← le_div_iff₀ (two_zpow_pos _), ← quotient, le_div_iff₀ lowRat] at reached
    rw [Nat.pow_eq]
    exact_mod_cast reached

theorem size_zero (negative : Bool) : (zero negative).size = 0 := by
  have none := size_ofMagnitude negative (e := 0) (s := 0) (Or.inl rfl) (by decide) (by decide)
  exact none.trans (by simp)

/-- A quotient far below the largest number is rounded to a finite number, which is no larger than a
power of two above the quotient. -/
theorem isFinite_ofRatio {n d k : Nat} (divides : 0 < d) (below : (n : ℚ) / d < 2 ^ k)
    (small : k ≤ 1022) (negative : Bool) :
    (ofRatio negative n d).isFinite = true ∧ (ofRatio negative n d).size ≤ 2 ^ k := by
  obtain rfl | positive := Nat.eq_zero_or_pos n
  · refine ⟨isFinite_zero negative, ?_⟩
    rw [show ofRatio negative 0 d = zero negative from rfl, size_zero]
    positivity
  obtain ⟨e, s, most, _, least, rounded⟩ := ofRatio_significand positive divides negative
  have field : e ≤ k + 1021 := by
    obtain rfl | ⟨_, least⟩ := least
    · omega
    · rw [← zpow_natCast] at below
      have order := (zpow_lt_zpow_iff_right₀ one_lt_two).mp (least.trans_lt below)
      omega
  have finite : e * Nat.pow 2 52 + s < infinityMagnitude := by
    have unit : Nat.pow 2 52 = 4503599627370496 := rfl
    have double : Nat.pow 2 53 = 9007199254740992 := rfl
    rw [double] at most
    rw [infinityMagnitude, unit]
    omega
  rw [min_eq_left finite.le] at rounded
  constructor
  · rw [isFinite_iff, rounded, magnitude_ofMagnitude _ (finite.trans infinityMagnitude_lt)]
    exact finite
  · rw [rounded, size_ofMagnitude negative (least.imp_right And.left) most finite]
    have digits : (s : ℚ) ≤ 2 ^ 53 := by exact_mod_cast Nat.pow_eq ▸ most
    calc (s : ℚ) * 2 ^ ((e : Int) - 1074)
        ≤ 2 ^ 53 * 2 ^ ((e : Int) - 1074) := by gcongr
      _ ≤ 2 ^ 53 * 2 ^ ((k : Int) - 53) := by
          have order := zpow_le_zpow_right₀ (one_le_two (α := ℚ))
            (show (e : Int) - 1074 ≤ k - 53 by omega)
          gcongr
      _ = 2 ^ k := by
          rw [← zpow_natCast, ← zpow_natCast, ← zpow_add₀ two_ne_zero]
          congr 1
          push_cast
          ring

/-- A quotient of at least one is at most twice the finite number that it is rounded to. -/
theorem div_le_two_mul_size {n d : Nat} (divides : 0 < d) (least : (1 : ℚ) ≤ n / d)
    {negative : Bool} (finite : (ofRatio negative n d).isFinite = true) :
    (n : ℚ) / d ≤ 2 * (ofRatio negative n d).size := by
  have positive : 0 < n := by
    rw [Nat.pos_iff_ne_zero]
    rintro rfl
    norm_num at least
  obtain ⟨e, s, most, above, reached, rounded⟩ := ofRatio_significand positive divides negative
  obtain rfl | ⟨digits, _⟩ := reached
  · have tiny : (2 : ℚ) ^ (((0 : Nat) : Int) - 1021) ≤ 1 :=
      zpow_le_one_of_nonpos₀ one_le_two (by decide)
    exact absurd (least.trans_lt above) (not_lt.mpr tiny)
  have inside := lt_infinityMagnitude (rounded ▸ finite)
  rw [min_eq_left inside.le] at rounded
  rw [rounded, size_ofMagnitude negative (Or.inr digits) most inside]
  have digits : (2 : ℚ) ^ 52 ≤ s := by exact_mod_cast Nat.pow_eq ▸ digits
  calc (n : ℚ) / d
      ≤ 2 ^ ((e : Int) - 1021) := above.le
    _ = 2 * (2 ^ 52 * 2 ^ ((e : Int) - 1074)) := by
        rw [← zpow_natCast, ← zpow_add₀ two_ne_zero, ← zpow_one_add₀ two_ne_zero]
        congr 1
        push_cast
        ring
    _ ≤ 2 * (s * 2 ^ ((e : Int) - 1074)) := by gcongr

/-! ### Arithmetic -/

theorem ratio_pos (x : Binary64) : 0 < x.ratio.2 := by
  rw [ratio]
  split
  · exact Nat.one_pos
  · exact Nat.pow_pos (by decide)

theorem ofInt_spec {n : Int} (small : n.natAbs < Nat.pow 2 64) :
    (ofInt n).isFinite = true ∧ (ofInt n).size ≤ 2 ^ 64 := by
  have below : (n.natAbs : ℚ) / (1 : Nat) < 2 ^ 64 := by
    rw [Nat.cast_one, div_one]
    exact_mod_cast Nat.pow_eq ▸ small
  exact isFinite_ofRatio Nat.one_pos below (by decide) _

theorem isFinite_ofInt (n : Int64) : (ofInt n.toInt).isFinite = true := by
  have least := n.le_toInt
  have most := n.toInt_lt
  have power : Nat.pow 2 64 = 18446744073709551616 := rfl
  exact (ofInt_spec (by omega)).1

theorem div_spec {x y : Binary64} (positive : 0 < y.size) {k : Nat}
    (below : x.size / y.size < 2 ^ k) (small : k ≤ 1022) :
    (x.div y).isFinite = true ∧ (x.div y).size ≤ 2 ^ k := by
  have low : (0 : ℚ) < y.ratio.2 := by exact_mod_cast y.ratio_pos
  have numerator : 0 < y.ratio.1 := by
    rw [← ratio_div, div_pos_iff_of_pos_right low] at positive
    exact_mod_cast positive
  refine isFinite_ofRatio (Nat.mul_pos x.ratio_pos numerator) ?_ small _
  rw [Nat.cast_mul, Nat.cast_mul, ← div_div_div_eq, ratio_div, ratio_div]
  exact below

end EnvTemplate.Binary64
