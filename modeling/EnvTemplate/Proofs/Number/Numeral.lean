import EnvTemplate.Number.FloatNumeral
import EnvTemplate.Proofs.Number.Shortest
/-! Numerals under reading. The positional text of a shortest decimal is a numeral of the same value,
and the numeral of an integer is read as the number nearest to it. -/
namespace EnvTemplate

/-! ### Positional text -/

namespace Shortest

def whole (s : Shortest) : List Char :=
  match s.point with
  | .ofNat (p + 1) => s.digits.take (p + 1) ++ List.replicate (p + 1 - s.digits.length) '0'
  | _ => ['0']

def fraction (s : Shortest) : List Char :=
  match s.point with
  | .ofNat p => s.digits.drop p
  | .negSucc p => List.replicate (p + 1) '0' ++ s.digits

section
variable {s : Shortest}

theorem IsDecimal.digits_ne_nil (decimal : s.IsDecimal) : s.digits ≠ [] := by
  obtain ⟨c, rest, shape, _⟩ := decimal.leading
  rw [shape]
  exact List.cons_ne_nil c rest

theorem positional_of_integral (integral : s.fraction = []) (decimal : s.IsDecimal) :
    s.positional = s.whole := by
  have some := decimal.digits_ne_nil
  obtain ⟨digits, point⟩ := s
  match point with
  | .ofNat 0 => exact absurd integral some
  | .ofNat (p + 1) =>
    have short : digits.length ≤ p + 1 := List.drop_eq_nil_iff.mp integral
    simp only [positional, whole, if_pos short, List.take_of_length_le short]
  | .negSucc p => exact absurd integral (List.append_ne_nil_of_right_ne_nil _ some)

theorem positional_of_fraction (some : s.fraction ≠ []) :
    s.positional = s.whole ++ '.' :: s.fraction := by
  obtain ⟨digits, point⟩ := s
  match point with
  | .ofNat 0 => rfl
  | .ofNat (p + 1) =>
    have long : ¬digits.length ≤ p + 1 := mt List.drop_eq_nil_iff.mpr some
    simp only [positional, whole, fraction, if_neg long,
      Nat.sub_eq_zero_of_le (Nat.not_le.mp long).le, List.replicate_zero, List.append_nil]
  | .negSucc p => rfl

theorem isNumeral_whole (decimal : s.IsDecimal) : Decimal.isNumeral s.whole = true := by
  have some := decimal.digits_ne_nil
  have numeral := decimal.numeral
  obtain ⟨digits, point⟩ := s
  match point with
  | .ofNat 0 | .negSucc p => rfl
  | .ofNat (p + 1) =>
    refine Decimal.isNumeral_iff.mpr ⟨by simp_all [whole], fun c member => ?_⟩
    obtain kept | zero := List.mem_append.mp member
    · exact numeral c (List.mem_of_mem_take kept)
    · obtain rfl := List.eq_of_mem_replicate zero
      rfl

theorem isDigit_of_mem_fraction (decimal : s.IsDecimal) : ∀ c ∈ s.fraction, c.isDigit = true := by
  intro c member
  have numeral := decimal.numeral c
  obtain ⟨digits, point⟩ := s
  match point with
  | .ofNat p => exact numeral (List.mem_of_mem_drop member)
  | .negSucc p =>
    obtain zero | kept := List.mem_append.mp member
    · obtain rfl := List.eq_of_mem_replicate zero
      rfl
    · exact numeral kept

theorem value_eq (s : Shortest) :
    s.value = Nat.ofDigitChars 10 (s.whole ++ s.fraction) 0 * 10 ^ (-(s.fraction.length : Int)) := by
  obtain ⟨digits, point⟩ := s
  match point with
  | .ofNat 0 => simp [value, whole, fraction, Nat.ofDigitChars_cons]
  | .ofNat (p + 1) =>
    by_cases short : digits.length ≤ p + 1
    · have power : ((p + 1 : Nat) : Int) - digits.length = (p + 1 - digits.length : Nat) := by omega
      simp only [value, whole, fraction, List.take_of_length_le short,
        List.drop_of_length_le short, List.append_nil, List.length_nil, Nat.ofDigitChars_append,
        Nat.ofDigitChars_replicate_zero, Int.ofNat_eq_natCast]
      rw [power, zpow_natCast]
      push_cast
      ring
    · have power : ((p + 1 : Nat) : Int) - digits.length = -(digits.length - (p + 1) : Nat) := by
        omega
      simp only [value, whole, fraction, Nat.sub_eq_zero_of_le (Nat.not_le.mp short).le,
        List.replicate_zero, List.append_nil, List.take_append_drop, List.length_drop,
        Int.ofNat_eq_natCast]
      rw [power]
  | .negSucc p =>
    have power : Int.negSucc p - digits.length = -((p + 1 + digits.length : Nat) : Int) := by omega
    simp only [value, whole, fraction, List.singleton_append, Nat.ofDigitChars_cons,
      Nat.ofDigitChars_append, Nat.ofDigitChars_replicate_zero, List.length_append,
      List.length_replicate]
    rw [power]
    simp

/-- A decimal whose digits end before its point has no fraction. -/
theorem fraction_eq_nil_of_length_le (short : (s.digits.length : Int) ≤ s.point) :
    s.fraction = [] := by
  obtain ⟨digits, point⟩ := s
  match point with
  | .ofNat p => exact List.drop_of_length_le (Int.ofNat_le.mp short)
  | .negSucc p =>
    have impossible : (digits.length : Int) ≤ Int.negSucc p := short
    omega

theorem sign_positional (decimal : s.IsDecimal) :
    Decimal.sign s.positional = (none, s.positional) := by
  have numeral := isNumeral_whole decimal
  by_cases integral : s.fraction = []
  · rw [positional_of_integral integral decimal, Decimal.sign_of_isNumeral numeral]
  · rw [positional_of_fraction integral, Decimal.sign_append numeral]

theorem isDigit_of_mem_positional (decimal : s.IsDecimal) :
    ∀ c ∈ s.positional, c.isDigit = true ∨ c = '.' := by
  obtain ⟨_, whole⟩ := Decimal.isNumeral_iff.mp (isNumeral_whole decimal)
  intro c member
  by_cases integral : s.fraction = []
  · rw [positional_of_integral integral decimal] at member
    exact .inl (whole c member)
  · rw [positional_of_fraction integral, List.mem_append, List.mem_cons] at member
    obtain before | rfl | after := member
    · exact .inl (whole c before)
    · exact .inr rfl
    · exact .inl (isDigit_of_mem_fraction decimal c after)

end

/-- Beyond 53 bits the shortest decimal is an integer. -/
theorem fraction_ofBinary64 {x : Binary64} (nonzero : x.isZero = false) (large : 2 ^ 53 ≤ x.size)
    (tie : Tie) : (ofBinary64 tie x).fraction = [] := by
  have scale := scale_decimal_nonneg nonzero (Binary64.exponent_nonneg large) tie
  exact fraction_eq_nil_of_length_le (length_digits_le_point scale)

end Shortest

namespace FloatNumeral

theorem read?_eq {text whole tail digits : List Char} {negative : Option Bool}
    (signed : Decimal.sign text = (negative, whole ++ tail))
    (numeral : Decimal.isNumeral whole = true) (ends : tail.takeWhile Char.isDigit = [])
    (last : fraction tail = (digits, [])) :
    read? text = some ⟨negative.getD false, Nat.ofDigitChars 10 (whole ++ digits) 0,
      -(digits.length : Int)⟩ := by
  obtain ⟨filled, digit⟩ := Decimal.isNumeral_iff.mp numeral
  have rest : tail.dropWhile Char.isDigit = tail := by
    have split := List.takeWhile_append_dropWhile (p := Char.isDigit) (l := tail)
    rwa [ends, List.nil_append] at split
  have cut : (whole ++ tail).span Char.isDigit = (whole, tail) := by
    rw [List.span_eq_takeWhile_dropWhile, List.takeWhile_append_of_pos digit,
      List.dropWhile_append_of_pos digit, ends, rest, List.append_nil]
  simp only [read?, signed, cut, last, List.isEmpty_eq_false_iff.mpr filled, exponent?,
    Bool.false_and, Bool.false_eq_true, if_false, Option.map_some, zero_sub]

theorem read?_integer {text whole : List Char} {negative : Option Bool}
    (signed : Decimal.sign text = (negative, whole)) (numeral : Decimal.isNumeral whole = true) :
    read? text = some ⟨negative.getD false, Nat.ofDigitChars 10 whole 0, 0⟩ := by
  rw [← List.append_nil whole] at signed
  have read := read?_eq signed numeral rfl rfl
  rwa [List.append_nil] at read

theorem read?_fraction {text whole digits : List Char} {negative : Option Bool}
    (signed : Decimal.sign text = (negative, whole ++ '.' :: digits))
    (numeral : Decimal.isNumeral whole = true) (fractional : ∀ c ∈ digits, c.isDigit = true) :
    read? text = some ⟨negative.getD false, Nat.ofDigitChars 10 (whole ++ digits) 0,
      -(digits.length : Int)⟩ := by
  refine read?_eq signed numeral rfl ?_
  rw [fraction, List.span_eq_takeWhile_dropWhile, List.takeWhile_eq_self_iff.mpr fractional,
    List.dropWhile_eq_nil_iff.mpr fractional]

/-- The positional text of a decimal is read as its value. -/
theorem read?_positional {s : Shortest} (decimal : s.IsDecimal) {text : List Char}
    {negative : Option Bool} (signed : Decimal.sign text = (negative, s.positional)) :
    read? text = some ⟨negative.getD false, Nat.ofDigitChars 10 (s.whole ++ s.fraction) 0,
      -(s.fraction.length : Int)⟩ := by
  have numeral := s.isNumeral_whole decimal
  by_cases integral : s.fraction = []
  · rw [s.positional_of_integral integral decimal] at signed
    rw [integral, List.append_nil]
    exact read?_integer signed numeral
  · rw [s.positional_of_fraction integral] at signed
    exact read?_fraction signed numeral (s.isDigit_of_mem_fraction decimal)

end FloatNumeral

/-! ### Decimals to numbers -/

namespace Binary64

theorem upperBound_lt {x : Binary64} (finite : x.isFinite = true) : x.upperBound < 2 ^ 1024 := by
  obtain ⟨e, shape, power, _, least⟩ := x.exists_magnitude_eq
  have inside := isFinite_iff.mp finite
  have unit : Nat.pow 2 52 = 4503599627370496 := rfl
  rw [shape, infinityMagnitude, unit] at inside
  rw [unit] at least
  rw [← zpow_natCast]
  exact x.upperBound_lt_two_zpow.trans_le (zpow_le_zpow_right₀ one_le_two (by omega))

theorem le_lowerBound {x : Binary64} (nonzero : x.isZero = false) :
    (2 : ℚ) ^ (-1075 : Int) ≤ x.lowerBound := by
  obtain ⟨e, _, power, _, _⟩ := x.exists_magnitude_eq
  have some : (1 : ℚ) ≤ x.significand := by exact_mod_cast significand_pos nonzero
  have half : 1 / 2 ≤ (x.significand : ℚ) -
      if x.significand = Nat.pow 2 52 ∧ Nat.pow 2 53 ≤ x.magnitude then 1 / 4 else 1 / 2 := by
    split <;> linarith
  calc (2 : ℚ) ^ (-1075 : Int)
      = 1 / 2 * 2 ^ (-1074 : Int) := by
        rw [show (-1075 : Int) = -1 + -1074 by rfl, zpow_add₀ two_ne_zero, zpow_neg_one, one_div]
    _ ≤ 1 / 2 * 2 ^ ((e : Int) - 1074) := by
        have order := zpow_le_zpow_right₀ (one_le_two (α := ℚ))
          (show -1074 ≤ (e : Int) - 1074 by omega)
        gcongr
    _ ≤ x.lowerBound := by
        rw [lowerBound, power]
        exact mul_le_mul_of_nonneg_right half (two_zpow_pos _).le

theorem ofDecimal_eq_ofRatio {digits : Nat} {scale : Int} (some : digits ≠ 0)
    (most : scale + (Decimal.ofNat digits).length ≤ 310)
    (least : -330 ≤ scale + (Decimal.ofNat digits).length) (negative : Bool) :
    ∃ n d : Nat, 0 < d ∧ (n : ℚ) / d = digits * 10 ^ scale ∧
      ofDecimal negative digits scale = ofRatio negative n d := by
  rw [Decimal.ofNat] at most least
  unfold ofDecimal
  rw [if_neg some]
  dsimp only
  rw [if_neg (by omega), if_neg (by omega)]
  cases scale with
  | ofNat k => exact ⟨digits * Nat.pow 10 k, 1, Nat.one_pos, by simp [Nat.pow_eq], rfl⟩
  | negSucc k =>
    exact ⟨digits, Nat.pow 10 (k + 1), Nat.pow_pos (by decide),
      by simp [Nat.pow_eq, zpow_negSucc, div_eq_mul_inv], rfl⟩

/-- A decimal near a number is read as this number: none is so large or so small that its power of
ten is spared. -/
theorem ofDecimal_of_near {x : Binary64} (finite : x.isFinite = true) (nonzero : x.isZero = false)
    {digits : Nat} {scale : Int} (near : x.Near (digits * 10 ^ scale)) (negative : Bool) :
    ofDecimal negative digits scale = ofMagnitude negative x.magnitude := by
  have ten : (0 : ℚ) < 10 ^ scale := zpow_pos (by norm_num) _
  have some : 0 < digits := by
    have above := (lowerBound_pos nonzero).trans_le near.1
    exact_mod_cast pos_of_mul_pos_left above ten.le
  obtain ⟨least, most⟩ := Decimal.length_ofNat_spec some
  have filled : 0 < (Decimal.ofNat digits).length := Nat.length_toDigits_pos
  generalize length : (Decimal.ofNat digits).length = k at *
  have top : scale + k ≤ 309 := by
    have below : (10 : ℚ) ^ (scale + k - 1) < 10 ^ (309 : Int) := by
      calc (10 : ℚ) ^ (scale + k - 1)
          = ((10 ^ (k - 1) : Nat) : ℚ) * 10 ^ scale := by
            push_cast
            rw [← zpow_natCast, ← zpow_add₀ (by norm_num)]
            congr 1
            omega
        _ ≤ digits * 10 ^ scale := by gcongr
        _ < 2 ^ 1024 := near.2.1.trans_lt (upperBound_lt finite)
        _ ≤ 10 ^ (309 : Int) := by
            have powers : 2 ^ 1024 ≤ 10 ^ 309 := by decide +kernel
            exact_mod_cast powers
    have order := (zpow_lt_zpow_iff_right₀ (by norm_num)).mp below
    omega
  have bottom : -330 ≤ scale + k := by
    have above : (10 : ℚ) ^ (-330 : Int) < 10 ^ (scale + k) := by
      calc (10 : ℚ) ^ (-330 : Int)
          ≤ 2 ^ (-1075 : Int) := by
            have powers : 2 ^ 1075 ≤ 10 ^ 330 := by decide +kernel
            rw [zpow_neg, zpow_neg]
            exact inv_anti₀ (by positivity) (by exact_mod_cast powers)
        _ ≤ digits * 10 ^ scale := (le_lowerBound nonzero).trans near.1
        _ < ((10 ^ k : Nat) : ℚ) * 10 ^ scale := by gcongr
        _ = 10 ^ (scale + k) := by
            push_cast
            rw [zpow_add₀ (by norm_num), zpow_natCast, mul_comm]
    have order := (zpow_lt_zpow_iff_right₀ (by norm_num)).mp above
    omega
  obtain ⟨n, d, divides, quotient, read⟩ :=
    ofDecimal_eq_ofRatio some.ne' (length ▸ (by omega)) (length ▸ bottom) negative
  rw [read, ofRatio_of_near finite nonzero divides (quotient ▸ near)]

/-- An integer is read as the number nearest to it. -/
theorem ofDecimal_zero (negative : Bool) (n : Nat) :
    ofDecimal negative n 0 = ofRatio negative n 1 := by
  obtain rfl | positive := Nat.eq_zero_or_pos n
  · rw [ofDecimal.eq_def, if_pos rfl, ofRatio, if_pos rfl]
  unfold ofDecimal
  rw [if_neg positive.ne']
  dsimp only
  rw [zero_add]
  split
  · rename_i long
    refine (ofRatio_of_large Nat.one_pos ?_ negative).symm
    have least := (Decimal.length_ofNat_spec positive).1
    rw [Decimal.ofNat] at least
    have digits : 310 ≤ (Nat.toDigits 10 n).length - 1 := by omega
    have reached := (pow_le_pow_right₀ (show 1 ≤ 10 by decide) digits).trans least
    have powers : 2 ^ 1024 ≤ 10 ^ 310 := by decide +kernel
    rw [Nat.cast_one, div_one]
    exact_mod_cast powers.trans reached
  · rw [if_neg (by omega)]
    exact congrArg (ofRatio negative · 1) (Nat.mul_one n)

end Binary64

end EnvTemplate
