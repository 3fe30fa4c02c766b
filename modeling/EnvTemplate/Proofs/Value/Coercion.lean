import EnvTemplate.Proofs.Value.Literal
import EnvTemplate.Value.Coercion
/-! Coercions of numbers and of their texts. A number and its text have the same truth and the same
float. They have the same integer as well, but for floats beyond 53 bits: their shortest text may be
the numeral of another integer. A text that spells an integer is coerced to it as long as it has 53
bits; beyond them the detour over a float shows, unless the numeral is canonical and fits. -/
namespace EnvTemplate.Value

open Decimal (minInt64 maxInt64 int64? clampInt64 signed)

/-! ### Texts -/

theorem isTruthy_string (text : List Char) :
    (string (String.ofList text)).isTruthy =
      (Literal.bool? text == some true || (Literal.int? text).any (· != 0) ||
        (Literal.float? text).any (!·.isZero)) := by
  simp only [isTruthy, scalarText?, String.toList_ofList]

theorem toInt?_string (text : List Char) :
    (string (String.ofList text)).toInt? = textToInt? text := by
  rw [toInt?, scalarText?, Option.bind_some, String.toList_ofList]
  all_goals nofun

theorem toFloat?_string (text : List Char) :
    (string (String.ofList text)).toFloat? = Literal.float? text := by
  rw [toFloat?, scalarText?, Option.bind_some, String.toList_ofList]
  all_goals nofun

/-! ### Texts of floats -/

/-- The integer of a text that also spells a float is the float's unless the text is the numeral of
another integer. -/
theorem textToInt?_eq_clampInt64_iff {text : List Char} {n : Int} {x : Binary64}
    (integer : Literal.int? text = int64? n) (float : Literal.float? text = some x) :
    textToInt? text = some (clampInt64 x.truncate) ↔
      (minInt64 ≤ n → n ≤ maxInt64 → n = max minInt64 (min x.truncate maxInt64)) := by
  rw [textToInt?, integer, float]
  cases fits : int64? n with
  | some m =>
    obtain ⟨rfl, least, most⟩ := Decimal.toInt_of_int64? fits
    dsimp only
    rw [Option.some_inj, ← Int64.toInt_inj, Decimal.toInt_clampInt64]
    exact ⟨fun same _ _ => same, fun same => same least most⟩
  | none =>
    refine iff_of_true rfl fun least most => ?_
    obtain low | high := Decimal.int64?_eq_none_iff.mp fits
    · exact absurd least (Int.not_le.mpr low)
    · exact absurd most (Int.not_le.mpr high)

theorem textToInt?_integral {x : Binary64} (finite : x.isFinite = true)
    (nonzero : x.isZero = false) {n : Nat} (shortest : (Shortest.ofBinary64 .up x).value = n)
    (integer : Literal.int? x.toPlainText = int64? (signed x.isNegative n)) :
    textToInt? x.toPlainText = some (clampInt64 x.truncate) ↔
      (2 ^ 53 ≤ x.size → x.size < 2 ^ 63 → n = x.size) := by
  rw [textToInt?_eq_clampInt64_iff integer (Literal.float?_toPlainText finite), Binary64.truncate_eq]
  simp only [minInt64, maxInt64, Nat.pow_eq]
  obtain small | large := lt_or_ge x.size (2 ^ 53)
  · rw [Shortest.size_eq_of_value_eq finite nonzero shortest small, Nat.floor_natCast]
    exact iff_of_true (by omega) fun _ _ => rfl
  obtain ⟨k, power⟩ := Int.eq_ofNat_of_zero_le (Binary64.exponent_nonneg large)
  have size := Binary64.size_of_exponent power
  generalize x.significand * 2 ^ k = m at size
  rw [size, Nat.floor_natCast]
  obtain inside | beyond := lt_or_ge x.size (2 ^ 63)
  · have near := shortest ▸ Shortest.near_value .up nonzero
    have bound : n < 2 ^ 63 := by
      have below := near.2.1.trans_lt (Binary64.upperBound_lt_two_pow inside)
      exact_mod_cast below
    rw [size] at large inside
    have limit : m < 2 ^ 63 := by exact_mod_cast inside
    rw [Nat.cast_inj]
    simp only [signed]
    constructor
    · intro same _ _
      split at same <;> omega
    · intro same
      rw [same (by exact_mod_cast large) inside]
      split <;> omega
  · -- both integers lie beyond 64 bits, where only the float's is left
    have bound := Shortest.two_pow_le_of_value_eq finite nonzero shortest beyond
    rw [size] at beyond
    have limit : 2 ^ 63 ≤ m := by exact_mod_cast beyond
    refine iff_of_true ?_ fun _ inside => absurd inside (not_lt.mpr beyond)
    simp only [signed]
    split <;> omega

/-- The text of a float is coerced to the integer part of the float, unless the float has more than
53 bits and its shortest decimal is another integer. -/
theorem textToInt?_toPlainText {x : Binary64} (finite : x.isFinite = true) :
    textToInt? x.toPlainText = some (clampInt64 x.truncate) ↔
      (2 ^ 53 ≤ x.size → x.size < 2 ^ 63 → (Shortest.ofBinary64 .up x).value = x.size) := by
  cases nonzero : x.isZero with
  | true =>
    rw [Binary64.eq_zero nonzero, Binary64.size_zero, Binary64.truncate_zero]
    refine iff_of_true ?_ fun large => absurd large (by norm_num)
    cases x.isNegative <;> decide
  | false =>
    obtain ⟨some, other⟩ | ⟨n, shortest, integer⟩ := Literal.int?_toPlainText finite nonzero
    · refine iff_of_true ?_ fun large => absurd (Shortest.fraction_ofBinary64 nonzero large .up) some
      rw [textToInt?, other, Literal.float?_toPlainText finite, Option.map_some]
    · rw [shortest]
      exact textToInt?_integral finite nonzero shortest integer

/-! ### Numbers and their texts -/

/-- Booleans, integers and finite floats. -/
def isNumber : Value → Bool
  | .bool _ | .int _ => true
  | .float x => x.isFinite
  | _ => false

/-- The text of a number is as true as the number and has the same float. It has the same integer,
too, unless the number is a float of more than 53 bits whose shortest decimal is another integer. -/
theorem coerce_toText {v : Value} (number : v.isNumber = true) :
    v.scalarText? = some v.toText ∧ (string v.toText).isTruthy = v.isTruthy ∧
      (string v.toText).toFloat? = v.toFloat? ∧
      ((string v.toText).toInt? = v.toInt? ↔
        ∀ x, v = .float x → 2 ^ 53 ≤ x.size → x.size < 2 ^ 63 →
          (Shortest.ofBinary64 .up x).value = x.size) := by
  cases v with
  | bool b =>
    refine ⟨by cases b <;> rfl, by cases b <;> decide, by cases b <;> rfl, ?_⟩
    exact iff_of_true (by cases b <;> rfl) nofun
  | int n =>
    have shown : (int n).toText = String.ofList (Decimal.ofInt n.toInt) := rfl
    rw [shown, isTruthy_string, toFloat?_string, toInt?_string, textToInt?, Literal.int?_ofInt,
      Literal.float?_ofInt]
    refine ⟨rfl, ?_, rfl, iff_of_true rfl nofun⟩
    obtain rfl | nonzero := eq_or_ne n 0
    · decide
    · have test : (n != 0) = true := bne_iff_ne.mpr nonzero
      rw [Option.any_some, isTruthy, test, Bool.or_true, Bool.true_or]
  | float x =>
    have shown : (float x).toText = String.ofList x.toPlainText := rfl
    have finite : x.isFinite = true := number
    have integer : (float x).toInt? = some (clampInt64 x.truncate) := by rw [toInt?, if_pos finite]
    have condition : (∀ y, float x = float y → 2 ^ 53 ≤ y.size → y.size < 2 ^ 63 →
        (Shortest.ofBinary64 .up y).value = y.size) ↔
        (2 ^ 53 ≤ x.size → x.size < 2 ^ 63 → (Shortest.ofBinary64 .up x).value = x.size) :=
      ⟨fun all => all x rfl, fun holds y same => by obtain rfl := float.inj same; exact holds⟩
    rw [shown, isTruthy_string, toFloat?_string, toInt?_string, integer, condition]
    refine ⟨rfl, ?_, Literal.float?_toPlainText finite, textToInt?_toPlainText finite⟩
    cases nonzero : x.isZero with
    | true =>
      rw [Binary64.eq_zero nonzero]
      cases x.isNegative <;> decide
    | false =>
      rw [Literal.float?_toPlainText finite, Option.any_some, isTruthy, nonzero, Bool.not_false,
        Bool.or_true]
  | _ => contradiction

/-- `9007199254740994` lies beyond 53 bits, and its shortest decimal is its exact value. -/
theorem coerce_toText_even :
    (float ⟨0x4340000000000001⟩).isNumber = true ∧
      (string "9007199254740994").isTruthy = true ∧
      (string "9007199254740994").toFloat? = some ⟨0x4340000000000001⟩ ∧
      (string "9007199254740994").toInt? = some 9007199254740994 := by
  have number : (float ⟨0x4340000000000001⟩).isNumber = true := by decide
  have shown : (float ⟨0x4340000000000001⟩).toText = "9007199254740994" := by decide
  obtain ⟨_, truthy, read, integer⟩ := coerce_toText number
  rw [shown] at truthy read integer
  have exact : ∀ x, float ⟨0x4340000000000001⟩ = float x → 2 ^ 53 ≤ x.size → x.size < 2 ^ 63 →
      (Shortest.ofBinary64 .up x).value = x.size := by
    rintro _ ⟨⟩ _ _
    have significand : (⟨0x4340000000000001⟩ : Binary64).significand = 4503599627370497 := by decide
    have exponent : (⟨0x4340000000000001⟩ : Binary64).exponent = 1 := by decide
    have digits : (Shortest.ofBinary64 .up ⟨0x4340000000000001⟩).digits =
        "9007199254740994".toList := by decide
    have point : (Shortest.ofBinary64 .up ⟨0x4340000000000001⟩).point = 16 := by decide
    have read : Nat.ofDigitChars 10 "9007199254740994".toList 0 = 9007199254740994 := by
      decide
    have length : "9007199254740994".toList.length = 16 := by decide
    rw [Shortest.value, digits, point, read, length, Binary64.size, significand, exponent]
    norm_num
  exact ⟨number, truthy.trans rfl, read, (integer.mpr exact).trans (by decide)⟩

/-- The shortest decimal of `4611686018427387904` is `4611686018427388000`. -/
theorem coerce_toText_rounded :
    ¬∀ v : Value, v.isNumber = true → (string v.toText).toInt? = v.toInt? := by
  intro agree
  have same := agree (float ⟨0x43d0000000000000⟩) (by decide)
  have short : (string (float ⟨0x43d0000000000000⟩).toText).toInt? = some 4611686018427388000 := by
    decide
  have whole : (float ⟨0x43d0000000000000⟩).toInt? = some 4611686018427387904 := by decide
  rw [short, whole] at same
  exact absurd same (by decide)

/-! ### Numerals of integers -/

theorem textToInt?_numeral {text : List Char} {n : Int}
    (numeral : Decimal.toInt? (Literal.strip text) = some n) :
    textToInt? text =
      if Literal.isCanonical (Decimal.sign (Literal.strip text)).2 ∧ minInt64 ≤ n ∧ n ≤ maxInt64 then
        some (.ofInt n)
      else if (Binary64.ofInt n).isFinite then some (clampInt64 (Binary64.ofInt n).truncate)
      else none := by
  cases parts : Decimal.sign (Literal.strip text) with
  | mk negative digits =>
    simp only [Decimal.toInt?, parts, Option.map_eq_some_iff] at numeral
    obtain ⟨k, read, rfl⟩ := numeral
    rw [Decimal.toNat?] at read
    split at read
    · rename_i digit
      obtain rfl := Option.some.inj read
      obtain ⟨finite, whole⟩ :=
        Binary64.ofRatio_signed (negative.getD false) (Nat.ofDigitChars 10 digits 0)
      rw [textToInt?, Literal.int?_eq parts, Literal.float?_integer parts digit, finite]
      generalize signed (negative.getD false) (Nat.ofDigitChars 10 digits 0) = n at *
      dsimp only
      rw [int64?]
      by_cases direct : Literal.isCanonical digits = true ∧ minInt64 ≤ n ∧ n ≤ maxInt64
      · rw [if_pos direct.1, if_pos direct.2, if_pos direct]
      · rw [if_neg direct, ← ite_and, if_neg direct]
        dsimp only
        split
        · rw [Option.map_some, whole]
        · rfl
    · contradiction

/-- A text that spells an integer is coerced to it if the numeral is canonical and the integer fits
into 64 bits. Any other goes through the nearest float, whose integer part is held within 64 bits; it
is refused if there is no finite one. So an integer of 64 bits that is not spelled canonically comes
out right exactly if it has 53 bits, apart from zeros at its end, or is the largest of all. -/
theorem toInt?_numeral {text : String} {n : Int}
    (numeral : Decimal.toInt? (Literal.strip text.toList) = some n) :
    (string text).toInt? =
        (if Literal.isCanonical (Decimal.sign (Literal.strip text.toList)).2 ∧
            minInt64 ≤ n ∧ n ≤ maxInt64 then some (.ofInt n)
          else if (Binary64.ofInt n).isFinite then some (clampInt64 (Binary64.ofInt n).truncate)
          else none) ∧
      (minInt64 ≤ n → n ≤ maxInt64 →
        ((string text).toInt? = some (.ofInt n) ↔
          Literal.isCanonical (Decimal.sign (Literal.strip text.toList)).2 = true ∨ n = maxInt64 ∨
            ∃ m k : Nat, m ≤ Nat.pow 2 53 ∧ n.natAbs = m * 2 ^ k)) ∧
      (n < minInt64 ∨ maxInt64 < n → (Binary64.ofInt n).isFinite = true →
        (string text).toInt? = some (clampInt64 n)) := by
  have read : (string text).toInt? = textToInt? text.toList := rfl
  rw [read, textToInt?_numeral numeral]
  refine ⟨rfl, fun least most => ?_, fun outside finite => ?_⟩
  · by_cases canonical : Literal.isCanonical (Decimal.sign (Literal.strip text.toList)).2 = true
    · rw [if_pos ⟨canonical, least, most⟩]
      exact iff_of_true rfl (.inl canonical)
    · have small := Decimal.natAbs_lt_of_range least most
      rw [if_neg fun direct => canonical direct.1, if_pos (Binary64.ofInt_spec small).1,
        Option.some_inj, Binary64.clampInt64_truncate_ofInt_eq_iff least most]
      exact (or_iff_right canonical).symm
  · rw [if_neg (fun fits => by omega), if_pos finite,
      Binary64.clampInt64_truncate_ofInt outside finite]

/-- Blanks, a sign and leading zeros, an integer of 54 bits with a zero at its end, and one of more
than 64 bits. -/
theorem toInt?_numeral_padded :
    Decimal.toInt? (Literal.strip "\t-0018014398509481982 ".toList) = some (-18014398509481982) ∧
      (string "\t-0018014398509481982 ").toInt? = some (-18014398509481982) ∧
      Decimal.toInt? (Literal.strip "9223372036854775808".toList) = some 9223372036854775808 ∧
      (string "9223372036854775808").toInt? = some 9223372036854775807 := by
  have padded : Decimal.toInt? (Literal.strip "\t-0018014398509481982 ".toList) =
      some (-18014398509481982) := by decide
  have even : (-18014398509481982 : Int).natAbs = 9007199254740991 * 2 ^ 1 := by decide
  have long : Decimal.toInt? (Literal.strip "9223372036854775808".toList) =
      some 9223372036854775808 := by decide
  have finite : (Binary64.ofInt 9223372036854775808).isFinite = true := by decide
  exact ⟨padded, ((toInt?_numeral padded).2.1 (by decide) (by decide)).mpr
      (.inr (.inr ⟨_, 1, by decide, even⟩)), long,
    (toInt?_numeral long).2.2 (.inr (by decide)) finite⟩

/-- A leading zero sends an integer of 54 bits through a float. -/
theorem toInt?_numeral_rounded :
    ¬∀ (text : String) (n : Int), Decimal.toInt? (Literal.strip text.toList) = some n →
      ∀ m : Int64, (string text).toInt? = some m → m.toInt = n := by
  intro right
  have numeral : Decimal.toInt? (Literal.strip "09007199254740993".toList) =
      some 9007199254740993 := by decide
  have rounded : (string "09007199254740993").toInt? = some 9007199254740992 := by decide
  exact absurd (right _ _ numeral _ rounded) (by decide)

end EnvTemplate.Value
