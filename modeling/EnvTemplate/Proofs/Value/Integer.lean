import EnvTemplate.Proofs.Value.Literal
/-! The grammar of integer literals. Digits without leading zeros are what is written for the number
that they denote, so a text is read as an integer exactly if it is such a numeral, perhaps behind a
sign and in blanks, and 64 bits hold the integer. -/
namespace EnvTemplate

namespace Decimal

/-- Zero by itself, or digits that do not begin with it. -/
inductive IsUnpadded : List Char → Prop
  | zero : IsUnpadded ['0']
  | leading {first : Char} {rest : List Char} : first.isDigit = true → first ≠ '0' →
      (∀ c ∈ rest, c.isDigit = true) → IsUnpadded (first :: rest)

theorem exists_digitChar {c : Char} (digit : c.isDigit = true) :
    ∃ d < 10, c = d.digitChar ∧ c.toNat - '0'.toNat = d := by
  obtain ⟨least, most⟩ : 48 ≤ c.toNat ∧ c.toNat ≤ 57 := Char.isDigit_iff_toNat.mp digit
  refine ⟨c.toNat - 48, by omega, ?_, rfl⟩
  apply Char.toNat_inj.mp
  rw [Nat.toNat_digitChar_of_lt_ten (by omega)]
  omega

/-- Digits behind the numeral of a positive number are the numeral of the number that all of them
denote. -/
theorem ofNat_append {digits : List Char} (all : ∀ c ∈ digits, c.isDigit = true) {n : Nat}
    (positive : 0 < n) : ofNat n ++ digits = ofNat (Nat.ofDigitChars 10 digits n) := by
  -- Every digit that is read makes a greater number, which is positive again.
  induction digits generalizing n with
  | nil => simp
  | cons c digits ih =>
    obtain ⟨digit, rest⟩ := List.forall_mem_cons.mp all
    obtain ⟨d, small, rfl, value⟩ := exists_digitChar digit
    have next : ofNat n ++ [d.digitChar] = ofNat (10 * n + d) := by
      have joined := Nat.toDigits_append_toDigits (b := 10) (by decide) positive small
      rwa [Nat.toDigits_of_lt_base small] at joined
    calc ofNat n ++ d.digitChar :: digits
        = ofNat (10 * n + d) ++ digits := by rw [← next]; simp
      _ = ofNat (Nat.ofDigitChars 10 digits (10 * n + d)) := ih rest (by omega)
      _ = ofNat (Nat.ofDigitChars 10 (d.digitChar :: digits) n) := by
          rw [Nat.ofDigitChars_cons, value]

/-- Digits without leading zeros are what is written for the number that they denote. -/
theorem IsUnpadded.eq_ofNat {digits : List Char} (unpadded : IsUnpadded digits) :
    digits = ofNat (Nat.ofDigitChars 10 digits 0) := by
  cases unpadded with
  | zero => rfl
  | @leading first rest digit nonzero all =>
    obtain ⟨d, small, rfl, value⟩ := exists_digitChar digit
    have positive : 0 < d := by
      rcases Nat.eq_zero_or_pos d with rfl | positive
      · exact absurd rfl nonzero
      · exact positive
    have whole := ofNat_append all positive
    rw [ofNat, Nat.toDigits_of_lt_base small] at whole
    rw [Nat.ofDigitChars_cons, value, Nat.mul_zero, Nat.zero_add]
    exact whole

end Decimal

namespace Literal

open Decimal (IsUnpadded)

theorem isCanonical_iff {digits : List Char} : isCanonical digits = true ↔ IsUnpadded digits := by
  constructor
  · intro canonical
    obtain ⟨numeral, start⟩ := Bool.and_eq_true_iff.mp canonical
    obtain ⟨some, all⟩ := Decimal.isNumeral_iff.mp numeral
    obtain ⟨first, rest, rfl⟩ := List.exists_cons_of_ne_nil some
    obtain ⟨digit, all⟩ := List.forall_mem_cons.mp all
    by_cases zero : first = '0'
    · subst zero
      obtain rfl : rest = [] := by simpa using start
      exact .zero
    · exact .leading digit zero all
  · intro unpadded
    rw [unpadded.eq_ofNat]
    exact isCanonical_ofNat _

/-- Texts of integers, each with the integer that it denotes: digits without leading zeros, perhaps
behind a sign. -/
inductive Denotes : List Char → Int → Prop
  | unsigned {digits : List Char} : IsUnpadded digits →
      Denotes digits (Nat.ofDigitChars 10 digits 0)
  | plus {digits : List Char} : IsUnpadded digits →
      Denotes ('+' :: digits) (Nat.ofDigitChars 10 digits 0)
  | minus {digits : List Char} : IsUnpadded digits →
      Denotes ('-' :: digits) (-(Nat.ofDigitChars 10 digits 0 : Int))

theorem denotes_iff {text digits : List Char} {negative : Option Bool} {n : Int}
    (signed : Decimal.sign text = (negative, digits)) :
    Denotes text n ↔ isCanonical digits = true ∧
      Decimal.signed (negative.getD false) (Nat.ofDigitChars 10 digits 0) = n := by
  rw [isCanonical_iff]
  constructor
  · intro denotes
    cases denotes with
    | unsigned unpadded =>
      rw [Decimal.sign_of_isNumeral] at signed
      · obtain ⟨rfl, rfl⟩ := Prod.mk.inj signed
        exact ⟨unpadded, rfl⟩
      · exact (Bool.and_eq_true_iff.mp (isCanonical_iff.mpr unpadded)).1
    | plus unpadded =>
      obtain ⟨rfl, rfl⟩ := Prod.mk.inj signed
      exact ⟨unpadded, rfl⟩
    | minus unpadded =>
      obtain ⟨rfl, rfl⟩ := Prod.mk.inj signed
      exact ⟨unpadded, rfl⟩
  · rintro ⟨unpadded, rfl⟩
    unfold Decimal.sign at signed
    split at signed
    · obtain ⟨rfl, rfl⟩ := Prod.mk.inj signed
      exact .plus unpadded
    · obtain ⟨rfl, rfl⟩ := Prod.mk.inj signed
      exact .minus unpadded
    · obtain ⟨rfl, rfl⟩ := Prod.mk.inj signed
      exact .unsigned unpadded

theorem map_toInt_int64?_eq_some_iff {m n : Int} :
    (Decimal.int64? m).map Int64.toInt = some n ↔ m = n ∧ -2 ^ 63 ≤ n ∧ n < 2 ^ 63 := by
  have least : Decimal.minInt64 = -2 ^ 63 := rfl
  have most : Decimal.maxInt64 = 2 ^ 63 - 1 := rfl
  cases fits : Decimal.int64? m with
  | none =>
    have outside := Decimal.int64?_eq_none_iff.mp fits
    simp only [Option.map_none, reduceCtorEq, false_iff]
    omega
  | some k =>
    obtain ⟨same, range⟩ := Decimal.toInt_of_int64? fits
    simp only [Option.map_some, Option.some_inj]
    omega

/-- A text is read as an integer if it is the text of this integer between blanks, and 64 bits hold
the integer; no other text is. So what is written for an integer is read as this integer, whatever
blanks are around it. -/
theorem int?_eq_some_iff (text : List Char) :
    Text.IsStripped Ascii.isLiteralBlank text (strip text) ∧
    (∀ n : Int, (int? text).map Int64.toInt = some n ↔
      Denotes (strip text) n ∧ -2 ^ 63 ≤ n ∧ n < 2 ^ 63) ∧
    ∀ (n : Int64) (before behind : List Char), text = before ++ Decimal.ofInt n.toInt ++ behind →
      (∀ c ∈ before, Ascii.isLiteralBlank c = true) →
      (∀ c ∈ behind, Ascii.isLiteralBlank c = true) → int? text = some n := by
  refine ⟨Text.isStripped_strip _ text, ?_, ?_⟩
  · intro n
    cases parts : Decimal.sign (strip text) with
    | mk negative digits =>
      rw [int?_eq parts, denotes_iff parts]
      split
      · rename_i canonical
        rw [map_toInt_int64?_eq_some_iff, and_iff_right canonical]
      · rename_i other
        simp [other]
  · rintro n before behind rfl blankBefore blankBehind
    have whole : strip (Decimal.ofInt n.toInt) = Decimal.ofInt n.toInt := by
      rw [Decimal.ofInt_eq]
      exact strip_signed (fun c member => .inl (Decimal.isDigit_of_mem_ofNat c member)) _
    -- A written integer has no blanks at its ends, so the blanks around it are all that goes.
    obtain ⟨_, _, _, _, _, first, last⟩ :=
      Text.isStripped_strip Ascii.isLiteralBlank (Decimal.ofInt n.toInt)
    rw [← strip, whole] at first last
    have core : strip (before ++ Decimal.ofInt n.toInt ++ behind) = Decimal.ofInt n.toInt :=
      Text.strip_eq_of_isStripped ⟨before, behind, rfl, blankBefore, blankBehind, first, last⟩
    have read := int?_ofInt n
    rw [int?, whole] at read
    rw [int?, core]
    exact read

/-- The smallest integer of 64 bits in blanks of several kinds. -/
theorem int?_eq_some_iff_least :
    int? "\x0b\x00 -9223372036854775808\r\n".toList = some Int64.minValue ∧
      Denotes (strip "\x0b\x00 -9223372036854775808\r\n".toList) (-2 ^ 63) := by
  obtain ⟨_, grammar, written⟩ :=
    int?_eq_some_iff "\x0b\x00 -9223372036854775808\r\n".toList
  have before : ∀ c ∈ "\x0b\x00 ".toList, Ascii.isLiteralBlank c = true :=
    List.all_eq_true.mp rfl
  have behind : ∀ c ∈ "\r\n".toList, Ascii.isLiteralBlank c = true := List.all_eq_true.mp rfl
  have read := written Int64.minValue _ _ (by decide) before behind
  exact ⟨read, ((grammar (-2 ^ 63)).mp (by rw [read]; rfl)).1⟩

end Literal

end EnvTemplate
