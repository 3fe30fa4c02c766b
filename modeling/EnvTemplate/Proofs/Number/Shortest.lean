import EnvTemplate.Number.Shortest
import EnvTemplate.Proofs.Number.Integral
import Mathlib.Data.List.TakeWhile
/-! The shortest decimal of a number lies where decimals are rounded to this number, whether it comes
from a grid of few digits or is the exact expansion. -/
namespace EnvTemplate

namespace Shortest

/-! ### Grids -/

def gridStep : (scale : Int) → Nat × Nat
  | .ofNat k => (1, Nat.pow 10 k)
  | .negSucc k => (Nat.pow 10 (k + 1), 1)

theorem gridStep_spec (scale : Int) :
    0 < (gridStep scale).1 ∧ 0 < (gridStep scale).2 ∧
      ((gridStep scale).2 : ℚ) / (gridStep scale).1 = 10 ^ scale := by
  cases scale with
  | ofNat k => simp [gridStep, Nat.pow_eq]
  | negSucc k => simp [gridStep, Nat.pow_eq, zpow_negSucc]

theorem interval_spec {x : Binary64} (nonzero : x.isZero = false) :
    ∃ low value high den, interval x = (low, value, high, den) ∧ 0 < den ∧
      (low : ℚ) / den = x.lowerBound ∧ (value : ℚ) / den = x.size ∧
      (high : ℚ) / den = x.upperBound := by
  have some := Binary64.significand_pos nonzero
  have quarter : ((if x.significand = Nat.pow 2 52 ∧ Nat.pow 2 53 ≤ x.magnitude
        then 4 * x.significand - 1 else 4 * x.significand - 2 : Nat) : ℚ) =
      4 * (x.significand -
        if x.significand = Nat.pow 2 52 ∧ Nat.pow 2 53 ≤ x.magnitude then 1 / 4 else 1 / 2) := by
    split
    · rw [Nat.cast_sub (by omega)]
      push_cast
      ring
    · rw [Nat.cast_sub (by omega)]
      push_cast
      ring
  rw [Binary64.lowerBound, Binary64.size, Binary64.upperBound, interval]
  generalize (if x.significand = Nat.pow 2 52 ∧ Nat.pow 2 53 ≤ x.magnitude
        then 4 * x.significand - 1 else 4 * x.significand - 2 : Nat) = low at *
  generalize x.significand = m at *
  cases x.exponent with
  | ofNat k =>
    refine ⟨_, _, _, _, rfl, by decide, ?_, ?_, ?_⟩
    · push_cast [quarter, Nat.pow_eq, Int.ofNat_eq_natCast, zpow_natCast]
      ring
    · push_cast [Nat.pow_eq, Int.ofNat_eq_natCast, zpow_natCast]
      ring
    · push_cast [Nat.pow_eq, Int.ofNat_eq_natCast, zpow_natCast]
      ring
  | negSucc k =>
    refine ⟨_, _, _, _, rfl, Nat.mul_pos (by decide) (Nat.pow_pos (by decide)), ?_, ?_, ?_⟩
    · push_cast [quarter, Nat.pow_eq, zpow_negSucc]
      field_simp
    · push_cast [Nat.pow_eq, zpow_negSucc]
      field_simp
    · push_cast [Nat.pow_eq, zpow_negSucc]
      field_simp
      ring

section
variable {bound den point up down : Nat} (den_pos : 0 < den) (up_pos : 0 < up)
include den_pos up_pos

/-- Grid points and bounds are compared over a common denominator. -/
theorem scaled_le_iff :
    bound * up ≤ point * (den * down) ↔ (bound : ℚ) / den ≤ point * ((down : ℚ) / up) := by
  have den_pos : (0 : ℚ) < den := by exact_mod_cast den_pos
  have up_pos : (0 : ℚ) < up := by exact_mod_cast up_pos
  rw [mul_div_assoc', div_le_div_iff₀ den_pos up_pos, ← Nat.cast_le (α := ℚ)]
  push_cast
  rw [show (point : ℚ) * (den * down) = point * down * den by ring]

theorem le_scaled_iff :
    point * (den * down) ≤ bound * up ↔ (point : ℚ) * ((down : ℚ) / up) ≤ bound / den := by
  have den_pos : (0 : ℚ) < den := by exact_mod_cast den_pos
  have up_pos : (0 : ℚ) < up := by exact_mod_cast up_pos
  rw [mul_div_assoc', div_le_div_iff₀ up_pos den_pos, ← Nat.cast_le (α := ℚ)]
  push_cast
  rw [show (point : ℚ) * (den * down) = point * down * den by ring]

end

/-- Whether a grid point reaches a bound: the bounds belong to the interval of an even significand. -/
def reaches (closed : Bool) (bound point : Nat) : Bool :=
  if closed then bound ≤ point else bound < point

/-- The better of the grid points beside a number, as far as they lie within its bounds. -/
def choose (tie : Tie) (closed : Bool) (low value high step : Nat) : Option Nat :=
  let i := value / step
  let left := reaches closed low (i * step) && 0 < i
  let right := reaches closed ((i + 1) * step) high
  let fromLeft := value - i * step
  let toRight := (i + 1) * step - value
  if left && right then
    if fromLeft < toRight then some i
    else if toRight < fromLeft then some (i + 1)
    else match tie with
      | .up => some (i + 1)
      | .even => some (i + i % 2)
  else if left then some i
  else if right then some (i + 1)
  else none

theorem onGrid_eq_choose (tie : Tie) {x : Binary64} (count : Nat) {low value high den : Nat}
    (bounds : interval x = (low, value, high, den)) :
    onGrid tie x count =
      (choose tie (x.significand % 2 == 0) (low * (gridStep (pointOf value den - count)).1)
        (value * (gridStep (pointOf value den - count)).1)
        (high * (gridStep (pointOf value den - count)).1)
        (den * (gridStep (pointOf value den - count)).2)).map (·, pointOf value den - count) := by
  unfold onGrid choose
  rw [bounds]
  dsimp only
  generalize pointOf value den - count = scale
  cases scale with
  | ofNat k =>
    cases tie <;> simp only [apply_ite (Option.map _), Option.map_some, Option.map_none] <;> rfl
  | negSucc k =>
    cases tie <;> simp only [apply_ite (Option.map _), Option.map_some, Option.map_none] <;> rfl

theorem choose_spec {tie : Tie} {closed : Bool} {low value high step n : Nat}
    (chosen : choose tie closed low value high step = some n) :
    n = value / step ∧ 0 < n ∧ reaches closed low (n * step) = true ∨
      n = value / step + 1 ∧ reaches closed (n * step) high = true := by
  unfold choose at chosen
  dsimp only at chosen
  generalize value / step = i at *
  have left : (reaches closed low (i * step) && decide (0 < i)) = true →
      i = i ∧ 0 < i ∧ reaches closed low (i * step) = true := by
    intro both
    obtain ⟨reached, some⟩ := Bool.and_eq_true_iff.mp both
    exact ⟨rfl, of_decide_eq_true some, reached⟩
  split at chosen
  · rename_i both
    obtain ⟨below, above⟩ := Bool.and_eq_true_iff.mp both
    split at chosen
    · cases chosen
      exact .inl (left below)
    split at chosen
    · cases chosen
      exact .inr ⟨rfl, above⟩
    cases tie with
    | up =>
      cases chosen
      exact .inr ⟨rfl, above⟩
    | even =>
      cases chosen
      obtain parity | parity := Nat.mod_two_eq_zero_or_one i
      · rw [parity]
        exact .inl (left below)
      · rw [parity]
        exact .inr ⟨rfl, above⟩
  split at chosen
  · rename_i below
    cases chosen
    exact .inl (left below)
  split at chosen
  · rename_i above
    cases chosen
    exact .inr ⟨rfl, above⟩
  · contradiction

/-- A point of a grid that is taken rounds to the number. -/
theorem near_of_onGrid {tie : Tie} {x : Binary64} {count n : Nat} {scale : Int}
    (nonzero : x.isZero = false) (found : onGrid tie x count = some (n, scale)) :
    0 < n ∧ x.Near (n * 10 ^ scale) := by
  obtain ⟨low, value, high, den, bounds, den_pos, lowest, middle, highest⟩ := interval_spec nonzero
  rw [onGrid_eq_choose tie count bounds, Option.map_eq_some_iff] at found
  obtain ⟨m, chosen, same⟩ := found
  obtain ⟨rfl, rfl⟩ := Prod.mk.inj same
  obtain ⟨up_pos, down_pos, power⟩ := gridStep_spec (pointOf value den - count)
  generalize pointOf value den - count = scale at *
  generalize (gridStep scale).1 = up at *
  generalize (gridStep scale).2 = down at *
  have step_pos : 0 < den * down := Nat.mul_pos den_pos down_pos
  obtain ⟨floor, some, reached⟩ | ⟨ceiling, reached⟩ := choose_spec chosen
  · have short : (m : ℚ) * 10 ^ scale ≤ x.size := by
      rw [← power, ← middle, ← le_scaled_iff den_pos up_pos, floor]
      exact Nat.div_mul_le_self _ _
    have below := short.trans_lt x.size_lt_upperBound
    rw [reaches] at reached
    split at reached
    · rename_i even
      have least := (scaled_le_iff den_pos up_pos).mp (of_decide_eq_true reached)
      rw [power, lowest] at least
      refine ⟨some, least, below.le, fun odd => ?_⟩
      rw [odd] at even
      contradiction
    · have least := (le_scaled_iff den_pos up_pos).not.mp
        (Nat.not_le.mpr (of_decide_eq_true reached))
      rw [power, lowest, not_le] at least
      exact ⟨some, least.le, below.le, fun _ => ⟨least, below⟩⟩
  · have long : x.size ≤ (m : ℚ) * 10 ^ scale := by
      rw [← power, ← middle, ← scaled_le_iff den_pos up_pos, ceiling]
      exact ((Nat.div_lt_iff_lt_mul step_pos).mp (Nat.lt_succ_self _)).le
    have above := x.lowerBound_lt_size.trans_le long
    have some : 0 < m := ceiling ▸ Nat.succ_pos _
    rw [reaches] at reached
    split at reached
    · rename_i even
      have most := (le_scaled_iff den_pos up_pos).mp (of_decide_eq_true reached)
      rw [power, highest] at most
      refine ⟨some, above.le, most, fun odd => ?_⟩
      rw [odd] at even
      contradiction
    · have most := (scaled_le_iff den_pos up_pos).not.mp
        (Nat.not_le.mpr (of_decide_eq_true reached))
      rw [power, highest, not_le] at most
      exact ⟨some, above.le, most.le, fun _ => ⟨above, most⟩⟩

/-! ### Digits -/

theorem exact_spec (x : Binary64) : ((exact x).1 : ℚ) * 10 ^ (exact x).2 = x.size := by
  rw [exact, Binary64.size]
  cases x.exponent with
  | ofNat k => simp [Nat.pow_eq]
  | negSucc k =>
    have ten : (10 : ℚ) ^ (k + 1) = 2 ^ (k + 1) * 5 ^ (k + 1) := by
      rw [← mul_pow]
      norm_num
    simp only [Nat.pow_eq, zpow_negSucc, ten]
    push_cast
    field_simp

def decimal (tie : Tie) (x : Binary64) : Nat × Int :=
  ((List.range 17).findSome? fun i => onGrid tie x (i + 1)).getD (exact x)

theorem near_decimal (tie : Tie) {x : Binary64} (nonzero : x.isZero = false) :
    0 < (decimal tie x).1 ∧ x.Near ((decimal tie x).1 * 10 ^ (decimal tie x).2) := by
  rw [decimal]
  cases found : (List.range 17).findSome? fun i => onGrid tie x (i + 1) with
  | some pair =>
    obtain ⟨i, _, taken⟩ := List.exists_of_findSome?_eq_some found
    exact near_of_onGrid nonzero taken
  | none =>
    have positive := Binary64.size_pos nonzero
    rw [← exact_spec x] at positive
    refine ⟨?_, ?_⟩
    · have some := pos_of_mul_pos_left positive (by positivity)
      exact_mod_cast some
    · rw [Option.getD_none, exact_spec]
      exact x.near_size

/-! ### Integers -/

/-- A number that is a point of the grid itself is on the grid. -/
theorem choose_ne_none {tie : Tie} {closed : Bool} {low value high step : Nat} (positive : 0 < value)
    (below : low < value) (exactly : value / step * step = value) :
    choose tie closed low value high step ≠ none := by
  have some : 0 < value / step := by
    rw [Nat.pos_iff_ne_zero]
    intro none
    rw [none, Nat.zero_mul] at exactly
    omega
  have left : (reaches closed low (value / step * step) && decide (0 < value / step)) = true := by
    rw [exactly, reaches]
    cases closed <;> simp [below, below.le, some]
  unfold choose
  simp only [left, Bool.true_and, if_true]
  split
  · split
    · exact Option.some_ne_none _
    split
    · exact Option.some_ne_none _
    · cases tie <;> exact Option.some_ne_none _
  · exact Option.some_ne_none _

/-- An integer is on the grid of its own digits, whose step is one. -/
theorem exists_grid {x : Binary64} (nonzero : x.isZero = false) {n : Nat} (integral : x.size = n)
    (tie : Tie) :
    ∃ p : Nat, 0 < p ∧ onGrid tie x p ≠ none ∧
      ∀ count digits scale, onGrid tie x count = some (digits, scale) → scale = p - count := by
  obtain ⟨low, value, high, den, bounds, den_pos, lowest, middle, _⟩ := interval_spec nonzero
  have positive : (0 : ℚ) < den := by exact_mod_cast den_pos
  have multiple : value = n * den := by
    rw [integral, div_eq_iff positive.ne'] at middle
    exact_mod_cast middle
  have some : 0 < n := by
    have above := Binary64.size_pos nonzero
    rw [integral] at above
    exact_mod_cast above
  have below : low < value := by
    have order := x.lowerBound_lt_size
    rw [← lowest, ← middle, div_lt_div_iff_of_pos_right positive] at order
    exact_mod_cast order
  have quotient : value / den = n := by rw [multiple, Nat.mul_div_cancel _ den_pos]
  have length : pointOf value den = ((Nat.toDigits 10 n).length : Nat) := by
    rw [pointOf, if_pos (multiple ▸ Nat.le_mul_of_pos_left den some), quotient]
  refine ⟨(Nat.toDigits 10 n).length, Nat.length_toDigits_pos, ?_, ?_⟩
  · have scale : gridStep (pointOf value den - (Nat.toDigits 10 n).length) = (1, 1) := by
      rw [length, Int.sub_self]
      rfl
    rw [onGrid_eq_choose tie _ bounds, scale]
    simp only [Nat.mul_one, ne_eq, Option.map_eq_none_iff]
    exact choose_ne_none (Nat.zero_lt_of_lt below) below (by rw [quotient, multiple])
  · intro count digits scale found
    rw [onGrid_eq_choose tie _ bounds, Option.map_eq_some_iff] at found
    obtain ⟨_, _, same⟩ := found
    rw [← (Prod.mk.inj same).2, length]

theorem scale_decimal_nonneg {x : Binary64} (nonzero : x.isZero = false) (integral : 0 ≤ x.exponent)
    (tie : Tie) : 0 ≤ (decimal tie x).2 := by
  obtain ⟨k, power⟩ := Int.eq_ofNat_of_zero_le integral
  obtain ⟨p, some, reached, scales⟩ := exists_grid nonzero (Binary64.size_of_exponent power) tie
  rw [decimal]
  cases found : (List.range 17).findSome? fun i => onGrid tie x (i + 1) with
  | some pair =>
    obtain ⟨before, i, after, split, taken, missed⟩ := List.findSome?_eq_some_iff.mp found
    rw [List.range_eq_range', List.range'_eq_append_iff] at split
    obtain ⟨j, most, rfl, rest⟩ := split
    obtain ⟨rfl, left, _⟩ := List.range'_eq_cons_iff.mp rest.symm
    rw [Option.getD_some, scales _ _ _ taken]
    -- the grids before the one that is taken are coarser than that of the number's own digits
    by_contra fine
    refine reached ?_
    have coarser := missed (p - 1) (List.mem_range'_1.mpr (by omega))
    rwa [Nat.sub_add_cancel some] at coarser
  | none => rw [Option.getD_none, exact, power]

def value (s : Shortest) : ℚ :=
  Nat.ofDigitChars 10 s.digits 0 * 10 ^ (s.point - s.digits.length)

/-- Digits without leading zeros. -/
structure IsDecimal (s : Shortest) : Prop where
  numeral : ∀ c ∈ s.digits, c.isDigit = true
  leading : ∃ c rest, s.digits = c :: rest ∧ c ≠ '0'

/-- Zeros at the end of a numeral only move its point. -/
theorem exists_zeros (all : List Char) :
    ∃ k, all = (all.reverse.dropWhile (· == '0')).reverse ++ List.replicate k '0' := by
  refine ⟨(all.reverse.takeWhile (· == '0')).length, ?_⟩
  have zeros : all.reverse.takeWhile (· == '0') =
      List.replicate (all.reverse.takeWhile (· == '0')).length '0' := by
    refine List.eq_replicate_of_mem fun c member => ?_
    simpa using List.mem_takeWhile_imp member
  have split := congrArg List.reverse
    (List.takeWhile_append_dropWhile (p := (· == '0')) (l := all.reverse))
  rw [List.reverse_append, List.reverse_reverse, zeros, List.reverse_replicate] at split
  exact split.symm

theorem ofBinary64_spec (tie : Tie) {x : Binary64} (nonzero : x.isZero = false) :
    (ofBinary64 tie x).IsDecimal ∧
      (ofBinary64 tie x).value = (decimal tie x).1 * 10 ^ (decimal tie x).2 := by
  obtain ⟨positive, _⟩ := near_decimal tie nonzero
  have shape : ofBinary64 tie x =
      ⟨((Nat.toDigits 10 (decimal tie x).1).reverse.dropWhile (· == '0')).reverse,
        (decimal tie x).2 + (Nat.toDigits 10 (decimal tie x).1).length⟩ := rfl
  rw [shape]
  generalize (decimal tie x).1 = n at *
  generalize (decimal tie x).2 = scale at *
  obtain ⟨k, split⟩ := exists_zeros (Nat.toDigits 10 n)
  have number : Nat.ofDigitChars 10 (Nat.toDigits 10 n) 0 = n := Nat.ofDigitChars_ten_toDigits
  obtain ⟨c, rest, first, leading⟩ := Decimal.exists_ofNat positive
  have digits : ∀ c ∈ Nat.toDigits 10 n, c.isDigit = true := Decimal.isDigit_of_mem_ofNat
  rw [Decimal.ofNat] at first
  generalize ((Nat.toDigits 10 n).reverse.dropWhile (· == '0')).reverse = kept at *
  generalize Nat.toDigits 10 n = all at *
  subst split
  refine ⟨⟨fun c member => digits c (List.mem_append_left _ member), ?_⟩, ?_⟩
  · cases kept with
    | nil =>
      have zero : c ∈ List.replicate k '0' := by
        rw [← List.nil_append (List.replicate k '0'), first]
        exact List.mem_cons_self
      exact absurd (List.eq_of_mem_replicate zero) leading
    | cons d tail =>
      obtain ⟨rfl, _⟩ := List.cons.inj first
      exact ⟨d, tail, rfl, leading⟩
  · rw [Nat.ofDigitChars_append, Nat.ofDigitChars_replicate_zero] at number
    have power : scale + ((kept ++ List.replicate k '0').length : Nat) - kept.length = k + scale := by
      rw [List.length_append, List.length_replicate]
      push_cast
      ring
    rw [value, ← number, power, zpow_add₀ (by norm_num), zpow_natCast]
    push_cast
    ring

/-- The digits of a decimal without a fraction end before its point. -/
theorem length_digits_le_point {tie : Tie} {x : Binary64} (integral : 0 ≤ (decimal tie x).2) :
    ((ofBinary64 tie x).digits.length : Int) ≤ (ofBinary64 tie x).point := by
  have kept : (((Nat.toDigits 10 (decimal tie x).1).reverse.dropWhile (· == '0')).reverse).length ≤
      (Nat.toDigits 10 (decimal tie x).1).length := by
    rw [List.length_reverse]
    exact (List.dropWhile_suffix _).length_le.trans List.length_reverse.le
  calc ((ofBinary64 tie x).digits.length : Int)
      ≤ (Nat.toDigits 10 (decimal tie x).1).length := Int.ofNat_le.mpr kept
    _ ≤ (decimal tie x).2 + (Nat.toDigits 10 (decimal tie x).1).length := by omega

/-- The shortest decimal of a number is rounded to this number. -/
theorem near_value (tie : Tie) {x : Binary64} (nonzero : x.isZero = false) :
    x.Near (ofBinary64 tie x).value := by
  rw [(ofBinary64_spec tie nonzero).2]
  exact (near_decimal tie nonzero).2

/-- The shortest decimal of the first number beyond 64 bits lies above it. -/
theorem value_two_pow (negative : Bool) :
    (ofBinary64 .up (.ofRatio negative (2 ^ 63) 1)).value = 9223372036854776000 := by
  have digits : (ofBinary64 .up (.ofRatio negative (2 ^ 63) 1)).digits =
      "9223372036854776".toList := by
    cases negative <;> decide
  have point : (ofBinary64 .up (.ofRatio negative (2 ^ 63) 1)).point = 19 := by
    cases negative <;> decide
  have number : Nat.ofDigitChars 10 "9223372036854776".toList 0 = 9223372036854776 := by
    decide
  have length : "9223372036854776".toList.length = 16 := by decide
  rw [value, point, digits, number, length]
  norm_num

section
variable {x : Binary64} (finite : x.isFinite = true) (nonzero : x.isZero = false) {n : Nat}
  (whole : (ofBinary64 .up x).value = n)
include finite nonzero whole

/-- Up to 53 bits a shortest decimal without a fraction is exact. -/
theorem size_eq_of_value_eq (small : x.size < 2 ^ 53) : x.size = n := by
  have near := whole ▸ near_value .up nonzero
  refine Binary64.size_eq_of_near finite nonzero near ?_
  have below := near.2.1.trans_lt (Binary64.upperBound_lt_two_pow small)
  exact le_of_lt (by exact_mod_cast below)

/-- The shortest decimal of a number beyond 64 bits is an integer beyond them, too. -/
theorem two_pow_le_of_value_eq (large : 2 ^ 63 ≤ x.size) : 2 ^ 63 ≤ n := by
  by_contra short
  have below : (n : ℚ) / (1 : Nat) < 2 ^ 63 := by
    rw [Nat.cast_one, div_one]
    exact_mod_cast Nat.not_le.mp short
  have near := whole ▸ near_value .up nonzero
  have rounded := Binary64.ofRatio_one_of_near finite nonzero near x.isNegative
  rw [Binary64.ofMagnitude_magnitude] at rounded
  -- rounding does not cross the power of two, so only the power of two itself is left
  have most := (Binary64.isFinite_ofRatio Nat.one_pos below (by decide) x.isNegative).2
  rw [rounded] at most
  have power : x.size = (2 ^ 63 : Nat) := by
    push_cast
    exact le_antisymm most large
  have first := Binary64.ofRatio_one_of_near finite nonzero (power ▸ x.near_size) x.isNegative
  rw [Binary64.ofMagnitude_magnitude] at first
  have value := value_two_pow x.isNegative
  rw [first, whole] at value
  have value : n = 9223372036854776000 := by exact_mod_cast value
  omega

end

end Shortest

end EnvTemplate
