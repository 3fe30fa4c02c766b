import EnvTemplate.Proofs.Value.Coercion
/-! The three coercions beside one another. A value has an integer exactly if it has a float; it is
true exactly if this float is not zero, and without a float only if its text is a word for true. -/
namespace EnvTemplate

namespace Binary64

/-- Only zero is rounded to zero. -/
theorem isZero_ofRatio_one {n : Nat} (negative : Bool)
    (finite : (ofRatio negative n 1).isFinite = true) :
    (ofRatio negative n 1).isZero = true ↔ n = 0 := by
  constructor
  · intro zero
    by_contra positive
    have least : (1 : ℚ) ≤ (n : ℚ) / (1 : Nat) := by
      rw [Nat.cast_one, div_one]
      exact_mod_cast Nat.one_le_iff_ne_zero.mpr positive
    have bound := least.trans (div_le_two_mul_size Nat.one_pos least finite)
    rw [eq_zero zero, size_zero] at bound
    norm_num at bound
  · rintro rfl
    cases negative <;> decide

/-- A number with an integer part is not zero. -/
theorem isZero_of_truncate {x : Binary64} (whole : x.truncate ≠ 0) : x.isZero = false := by
  rw [Bool.eq_false_iff]
  intro zero
  rw [eq_zero zero, truncate_zero] at whole
  exact whole rfl

end Binary64

namespace Literal

/-! ### Literals that are accepted together -/

/-- An integer literal is a float literal as well, and both are zero or neither is. -/
theorem float?_of_int? {text : List Char} {n : Int64} (read : int? text = some n) :
    ∃ x, float? text = some x ∧ (x.isZero = true ↔ n = 0) := by
  cases parts : Decimal.sign (strip text) with
  | mk negative digits =>
    rw [int?_eq parts] at read
    split at read
    · rename_i canonical
      have numeral : Decimal.isNumeral digits = true := (Bool.and_eq_true _ _ ▸ canonical).1
      obtain ⟨value, _, _⟩ := Decimal.toInt_of_int64? read
      obtain ⟨bounded, _⟩ :=
        Binary64.ofRatio_signed (negative.getD false) (Nat.ofDigitChars 10 digits 0)
      rw [← value, Binary64.isFinite_ofInt] at bounded
      refine ⟨_, (float?_integer parts numeral).trans (if_pos bounded), ?_⟩
      rw [Binary64.isZero_ofRatio_one _ bounded, ← Int64.toInt_inj, value, Int64.toInt_zero,
        ← Int.natAbs_eq_zero, Decimal.natAbs_signed]
    · contradiction

/-! ### Words -/

/-- Lower case changes capital letters only, and into small ones. -/
theorem toLower_cases (c : Char) :
    c.toLower = c ∨ c.isUpper = true ∧ c.toLower.isLower = true := by
  by_cases upper : c.isUpper = true
  · refine .inr ⟨upper, ?_⟩
    have bounds : c.val ≥ 'A'.val ∧ c.val ≤ 'Z'.val := of_decide_eq_true upper
    have lowered : c.toLower.val = c.val + ('a'.val - 'A'.val) := congrArg Char.val (dif_pos bounds)
    have least : 65 ≤ c.val.toNat := UInt32.le_iff_toNat_le.mp bounds.1
    have most : c.val.toNat ≤ 90 := UInt32.le_iff_toNat_le.mp bounds.2
    have shift : ('a'.val - 'A'.val).toNat = 32 := rfl
    have value : c.toLower.val.toNat = c.val.toNat + 32 := by
      rw [lowered, UInt32.toNat_add, shift, Nat.mod_eq_of_lt (by omega)]
    refine (Bool.and_eq_true _ _).mpr ⟨decide_eq_true ?_, decide_eq_true ?_⟩
    · exact UInt32.le_iff_toNat_le.mpr (show 97 ≤ _ by omega)
    · exact UInt32.le_iff_toNat_le.mpr (show _ ≤ 122 by omega)
  · exact .inl (dif_neg (mt decide_eq_true upper))

/-- The words for true that are no numerals. -/
def wordsOfTrue : List (List Char) :=
  ["true".toList, "on".toList, "yes".toList]

theorem bool?_eq_true_iff {text : List Char} :
    bool? text = some true ↔ strip text = ['1'] ∨ Ascii.lower (strip text) ∈ wordsOfTrue := by
  have one : Ascii.lower (strip text) = ['1'] ↔ strip text = ['1'] := by
    constructor
    · intro lowered
      obtain ⟨c, single, same⟩ := List.map_eq_singleton_iff.mp lowered
      obtain kept | ⟨_, small⟩ := toLower_cases c
      · rw [single, ← same, kept]
      · rw [same] at small
        exact absurd small (by decide)
    · intro single
      rw [single]
      rfl
  have words : trueWords.contains (Ascii.lower (strip text)) = true ↔
      strip text = ['1'] ∨ Ascii.lower (strip text) ∈ wordsOfTrue := by
    rw [List.contains_iff_mem, ← one]
    exact List.mem_cons
  rw [← words, bool?]
  split
  · rename_i listed
    exact iff_of_true rfl listed
  · rename_i unlisted
    refine iff_of_false ?_ unlisted
    split <;> nofun

/-- A text that begins with a letter spells no number. -/
theorem read?_of_isAlpha {c : Char} (letter : c.isAlpha = true) (rest : List Char) :
    FloatNumeral.read? (c :: rest) = none := by
  have other : ∀ d : Char, d.isAlpha = false → c ≠ d := by
    rintro d none rfl
    exact absurd letter (Bool.eq_false_iff.mp none)
  have digit : c.isDigit = false := by
    rw [Bool.eq_false_iff]
    intro digit
    delta Char.isAlpha Char.isUpper Char.isLower Char.isDigit at letter digit
    simp only [Bool.or_eq_true, Bool.and_eq_true, decide_eq_true_eq, ge_iff_le,
      UInt32.le_iff_toNat_le] at letter digit
    have most : c.val.toNat ≤ 57 := digit.2
    obtain least | least := letter
    · exact absurd (Nat.le_trans least.1 most) (by decide)
    · exact absurd (Nat.le_trans least.1 most) (by decide)
  have unsigned : Decimal.sign (c :: rest) = (none, c :: rest) :=
    Decimal.sign.eq_3 _ (fun _ same => other '+' rfl (List.cons.inj same).1)
      (fun _ same => other '-' rfl (List.cons.inj same).1)
  have integral : FloatNumeral.fraction (c :: rest) = ([], c :: rest) :=
    FloatNumeral.fraction.eq_2 _ fun _ same => other '.' rfl (List.cons.inj same).1
  have whole : (c :: rest).span Char.isDigit = ([], c :: rest) :=
    Text.span_eq_iff.mpr ⟨rfl, List.forall_mem_nil _, fun d first => Option.some.inj first ▸ digit⟩
  simp only [FloatNumeral.read?, unsigned, whole, integral, List.isEmpty_nil, Bool.and_self,
    if_true]

/-- A word is no number. -/
theorem float?_of_word {text : List Char} (word : Ascii.lower (strip text) ∈ wordsOfTrue) :
    float? text = none := by
  have small : ∀ w ∈ wordsOfTrue, ∃ d tail, w = d :: tail ∧ d.isLower = true := by
    simp only [wordsOfTrue, List.forall_mem_cons]
    exact ⟨⟨_, _, rfl, rfl⟩, ⟨_, _, rfl, rfl⟩, ⟨_, _, rfl, rfl⟩, nofun⟩
  obtain ⟨d, tail, shape, lower⟩ := small _ word
  obtain ⟨c, rest, written, same, _⟩ := List.map_eq_cons_iff.mp shape
  have letter : c.isAlpha = true := by
    refine (Bool.or_eq_true _ _).mpr ?_
    obtain kept | ⟨upper, _⟩ := toLower_cases c
    · rw [← kept, same]
      exact .inr lower
    · exact .inl upper
  rw [float?, written, read?_of_isAlpha letter, Option.bind_none]

end Literal

namespace Value

/-! ### Texts -/

/-- A text has an integer exactly if it has a float. -/
theorem isSome_textToInt?_iff (text : List Char) :
    (textToInt? text).isSome = true ↔ (Literal.float? text).isSome = true := by
  rw [textToInt?]
  cases read : Literal.int? text with
  | some n =>
    obtain ⟨x, float, _⟩ := Literal.float?_of_int? read
    rw [float]
    exact iff_of_true rfl rfl
  | none => rw [Option.isSome_map]

theorem isTruthy_string_of_float? {text : List Char} {x : Binary64}
    (float : Literal.float? text = some x) :
    (string (String.ofList text)).isTruthy = true ↔ x.isZero = false := by
  rw [isTruthy_string, float, Option.any_some, Bool.or_eq_true, Bool.or_eq_true, beq_iff_eq,
    Bool.not_eq_true']
  refine ⟨?_, .inr⟩
  rintro ((word | integer) | nonzero)
  · obtain one | word := Literal.bool?_eq_true_iff.mp word
    · have unit : Literal.float? text = some ⟨0x3ff0000000000000⟩ := by
        rw [Literal.float?, one]
        decide
      obtain rfl := Option.some.inj (float.symm.trans unit)
      rfl
    · exact absurd (float.symm.trans (Literal.float?_of_word word)) (Option.some_ne_none x)
  · obtain ⟨n, read, other⟩ := (Option.any_eq_true _ _).mp integer
    obtain ⟨y, same, zero⟩ := Literal.float?_of_int? read
    obtain rfl := Option.some.inj (float.symm.trans same)
    rw [bne_iff_ne] at other
    exact Bool.eq_false_iff.mpr (mt zero.mp other)
  · exact nonzero

theorem isTruthy_string_of_no_float? {text : List Char} (float : Literal.float? text = none) :
    (string (String.ofList text)).isTruthy = true ↔
      Ascii.lower (Literal.strip text) ∈ Literal.wordsOfTrue := by
  have integer : Literal.int? text = none := by
    by_contra some
    obtain ⟨n, read⟩ := Option.ne_none_iff_exists'.mp some
    obtain ⟨x, same, _⟩ := Literal.float?_of_int? read
    exact absurd (float.symm.trans same) nofun
  have other : Literal.strip text ≠ ['1'] := by
    intro one
    rw [Literal.float?, one] at float
    exact absurd float (by decide)
  rw [isTruthy_string, float, integer, Option.any_none, Option.any_none, Bool.or_false,
    Bool.or_false, beq_iff_eq, Literal.bool?_eq_true_iff, or_iff_right other]

/-- A text whose integer is not zero has a float that is not zero. -/
theorem exists_float?_of_textToInt? {text : List Char} {n : Int64}
    (read : textToInt? text = some n) (other : n ≠ 0) :
    ∃ x, Literal.float? text = some x ∧ x.isZero = false := by
  rw [textToInt?] at read
  split at read
  · rename_i m integer
    obtain rfl := Option.some.inj read
    obtain ⟨x, float, zero⟩ := Literal.float?_of_int? integer
    exact ⟨x, float, Bool.eq_false_iff.mpr (mt zero.mp other)⟩
  · obtain ⟨x, float, rfl⟩ := Option.map_eq_some_iff.mp read
    refine ⟨x, float, Binary64.isZero_of_truncate ?_⟩
    intro none
    rw [none] at other
    exact other (by decide)

/-! ### Values -/

/-- What the three coercions of a value say of one another. -/
structure Coherent (v : Value) : Prop where
  /-- All values but infinities and NaNs have both numbers or neither. -/
  isSome_iff : (∀ x, v = .float x → x.isFinite = true) →
    (v.toInt?.isSome = true ↔ v.toFloat?.isSome = true)
  /-- A value with a float is true exactly if it is not zero. -/
  isTruthy_of_float : ∀ x, v.toFloat? = some x → (v.isTruthy = true ↔ x.isZero = false)
  /-- A value without a float is true exactly if its text is a word for true. -/
  isTruthy_of_word : v.toFloat? = none →
    (v.isTruthy = true ↔ v.isScalar = true ∧ ∃ text, v.scalarText? = some text ∧
      Ascii.lower (Literal.strip text.toList) ∈ Literal.wordsOfTrue)
  isTruthy_of_integer : ∀ n, v.toInt? = some n → n ≠ 0 → v.isTruthy = true

/-- A value that is coerced through its text is coherent. -/
theorem Coherent.of_text {v : Value} {text : String} (scalar : v.isScalar = true)
    (shown : v.scalarText? = some text) (whole : ∀ n, v ≠ int n) (fraction : ∀ x, v ≠ float x)
    (truthy : v.isTruthy = (string text).isTruthy) : v.Coherent := by
  have integer : v.toInt? = textToInt? text.toList := by
    rw [toInt?.eq_3 v whole fraction, shown, Option.bind_some]
  have float : v.toFloat? = Literal.float? text.toList := by
    rw [toFloat?.eq_3 v fraction whole, shown, Option.bind_some]
  rw [← String.ofList_toList (s := text)] at truthy
  refine ⟨fun _ => ?_, fun x read => ?_, fun none => ?_, fun n read other => ?_⟩
  · rw [integer, float]
    exact isSome_textToInt?_iff _
  · rw [truthy]
    exact isTruthy_string_of_float? (float.symm.trans read)
  · rw [truthy, isTruthy_string_of_no_float? (float.symm.trans none)]
    refine ⟨fun word => ⟨scalar, text, shown, word⟩, ?_⟩
    rintro ⟨_, other, same, word⟩
    obtain rfl := Option.some.inj (shown.symm.trans same)
    exact word
  · obtain ⟨x, read, nonzero⟩ := exists_float?_of_textToInt? (integer.symm.trans read) other
    rw [truthy]
    exact (isTruthy_string_of_float? read).mpr nonzero

/-- A value without a text, which is no number and not true, is coherent. -/
theorem Coherent.of_no_text {v : Value} (scalar : v.isScalar = false) (integer : v.toInt? = none)
    (float : v.toFloat? = none) (truthy : v.isTruthy = false) : v.Coherent := by
  refine ⟨fun _ => ?_, fun x read => ?_, fun _ => ?_, fun n read => ?_⟩
  · rw [integer, float]
    exact Iff.rfl
  · exact absurd (read.symm.trans float) (Option.some_ne_none x)
  · rw [truthy, scalar]
    exact iff_of_false Bool.false_ne_true fun word => Bool.false_ne_true word.1
  · exact absurd (read.symm.trans integer) (Option.some_ne_none n)

/-- Three separate coercions accept the same values, and truth means a number other than zero. -/
theorem coherent (v : Value) : v.Coherent := by
  cases v with
  | bool b =>
    have truthy : (bool b).isTruthy = (string ((bool b).scalarText?.getD "")).isTruthy := by
      cases b <;> decide
    exact .of_text rfl (by cases b <;> rfl) (fun _ => by simp) (fun _ => by simp) truthy
  | string s => exact .of_text rfl rfl (fun _ => by simp) (fun _ => by simp) rfl
  | bytes bs => exact .of_text rfl rfl (fun _ => by simp) (fun _ => by simp) rfl
  | int n =>
    have zero := Binary64.isZero_ofRatio_one (decide (n.toInt < 0)) (Binary64.isFinite_ofInt n)
    rw [Int.natAbs_eq_zero, ← Int64.toInt_zero, Int64.toInt_inj] at zero
    have truthy : (int n).isTruthy = true ↔ n ≠ 0 := bne_iff_ne
    refine ⟨fun _ => iff_of_true rfl rfl, fun x read => ?_, fun none => ?_, fun m read other => ?_⟩
    · obtain rfl := Option.some.inj read
      rw [truthy, Bool.eq_false_iff]
      exact not_congr zero.symm
    · exact absurd none (Option.some_ne_none _)
    · obtain rfl := Option.some.inj read
      exact truthy.mpr other
  | float x =>
    have truthy : (float x).isTruthy = true ↔ x.isZero = false := by
      rw [isTruthy, Bool.not_eq_true']
    refine ⟨fun finite => ?_, fun y read => ?_, fun none => ?_, fun n read other => ?_⟩
    · rw [toInt?, if_pos (finite x rfl)]
      exact iff_of_true rfl rfl
    · obtain rfl := Option.some.inj read
      exact truthy
    · exact absurd none (Option.some_ne_none _)
    · rw [toInt?] at read
      split at read
      · obtain rfl := Option.some.inj read
        refine truthy.mpr (Binary64.isZero_of_truncate ?_)
        intro none
        rw [none] at other
        exact other (by decide)
      · contradiction
  | null | sequence items | mapping entries | enumCase case => exact .of_no_text rfl rfl rfl rfl

/-- A numeral that is no integer literal, a word with blanks around it, and a zero with an exponent. -/
theorem coherent_spelled :
    (string " -0012 ").toInt? = some (-12) ∧ (string " -0012 ").isTruthy = true ∧
      (string "\tYes\x00").toFloat? = none ∧ (string "\tYes\x00").isTruthy = true ∧
      (string "-0e9").toFloat? = some (.zero true) ∧ (string "-0e9").isTruthy = false := by
  have integer : (string " -0012 ").toInt? = some (-12) := by decide
  have word : (string "\tYes\x00").toFloat? = none := by decide
  have zero : (string "-0e9").toFloat? = some (.zero true) := by decide
  refine ⟨integer, (coherent _).isTruthy_of_integer _ integer (by decide), word,
    ((coherent _).isTruthy_of_word word).mpr ⟨rfl, _, rfl, by decide⟩, zero, ?_⟩
  rw [Bool.eq_false_iff, ne_eq, (coherent _).isTruthy_of_float _ zero]
  decide

end Value

end EnvTemplate
