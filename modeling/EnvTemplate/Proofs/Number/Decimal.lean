import EnvTemplate.Number.Decimal
import Mathlib.Data.Nat.Digits.Defs
/-! Numerals under reading: what is written for a number denotes this number again. An integer of 64
bits keeps its value, and any other is told apart. -/
namespace EnvTemplate.Decimal

theorem isDigit_of_mem_ofNat {n : Nat} : ∀ c ∈ ofNat n, c.isDigit = true :=
  fun _ member => Nat.isDigit_of_mem_toDigits (by decide) (by decide) member

theorem toNat_lt_of_isDigit {c : Char} (digit : c.isDigit = true) : c.toNat < 0x80 :=
  Nat.lt_of_le_of_lt (Char.isDigit_iff_toNat.mp digit).2 (by decide)

theorem le_ofDigitChars (digits : List Char) (n : Nat) : n ≤ Nat.ofDigitChars 10 digits n := by
  rw [Nat.ofDigitChars_eq_ofDigitChars_zero]
  exact Nat.le_add_right_of_le (Nat.le_mul_of_pos_left n (Nat.pow_pos (by decide)))

/-- The numeral of a positive number has no leading zero. -/
theorem exists_ofNat {n : Nat} (positive : 0 < n) :
    ∃ c digits, ofNat n = c :: digits ∧ c ≠ '0' := by
  induction n using Nat.strongRecOn with
  | ind n ih =>
    by_cases small : n < 10
    · refine ⟨n.digitChar, [], Nat.toDigits_of_lt_base small, ?_⟩
      have digits : ∀ d < 10, 0 < d → d.digitChar ≠ '0' := by decide
      exact digits n small positive
    · obtain ⟨c, digits, shape, nonzero⟩ := ih (n / 10) (by omega) (by omega)
      refine ⟨c, digits ++ [(n % 10).digitChar], ?_, nonzero⟩
      rw [ofNat, Nat.toDigits_of_base_le (by decide) (by omega), ← ofNat, shape, List.cons_append]

/-- The length of a numeral bounds the number. -/
theorem length_ofNat_spec {n : Nat} (positive : 0 < n) :
    10 ^ ((ofNat n).length - 1) ≤ n ∧ n < 10 ^ (ofNat n).length := by
  have some : 0 < (ofNat n).length := Nat.length_toDigits_pos
  refine ⟨?_, (Nat.length_toDigits_le_iff (by decide) some).mp (Nat.le_refl _)⟩
  obtain one | more := Nat.eq_zero_or_pos ((ofNat n).length - 1)
  · rw [one]
    exact positive
  · refine Nat.not_lt.mp (mt (Nat.length_toDigits_le_iff (by decide) more).mpr ?_)
    rw [← ofNat]
    omega

theorem isNumeral_iff {text : List Char} :
    isNumeral text = true ↔ text ≠ [] ∧ ∀ c ∈ text, c.isDigit = true := by
  rw [isNumeral, Bool.and_eq_true, Bool.not_eq_true', List.isEmpty_eq_false_iff, List.all_eq_true]

theorem isNumeral_ofNat (n : Nat) : isNumeral (ofNat n) = true :=
  isNumeral_iff.mpr ⟨Nat.toDigits_ne_nil, isDigit_of_mem_ofNat⟩

theorem toNat?_ofNat (n : Nat) : toNat? (ofNat n) = some n := by
  rw [toNat?, if_pos (isNumeral_ofNat n), ofNat, Nat.ofDigitChars_toDigits (by decide) (by decide)]

theorem toNat?_eq_some_iff {digits : List Char} {n : Nat} :
    toNat? digits = some n ↔
      (digits ≠ [] ∧ ∀ c ∈ digits, c.isDigit = true) ∧ Nat.ofDigitChars 10 digits 0 = n := by
  rw [toNat?, ← isNumeral_iff, Option.ite_none_right_eq_some, Option.some.injEq]

/-- A numeral is not a sign. -/
theorem sign_append {numeral : List Char} (digits : isNumeral numeral = true) (rest : List Char) :
    sign (numeral ++ rest) = (none, numeral ++ rest) := by
  obtain ⟨some, digit⟩ := isNumeral_iff.mp digits
  obtain ⟨c, tail, rfl⟩ := List.exists_cons_of_ne_nil some
  have first := digit c List.mem_cons_self
  refine sign.eq_3 _ ?_ ?_
  · rintro _ shape
    obtain ⟨rfl, _⟩ := List.cons.inj shape
    exact absurd first (by decide)
  · rintro _ shape
    obtain ⟨rfl, _⟩ := List.cons.inj shape
    exact absurd first (by decide)

theorem sign_of_isNumeral {numeral : List Char} (digits : isNumeral numeral = true) :
    sign numeral = (none, numeral) := by
  have unsigned := sign_append digits []
  rwa [List.append_nil] at unsigned

theorem sign_ofNat (n : Nat) : sign (ofNat n) = (none, ofNat n) :=
  sign_of_isNumeral (isNumeral_ofNat n)

theorem toInt?_ofNat (n : Nat) : toInt? (ofNat n) = some (n : Int) := by
  simp only [toInt?, sign_ofNat, toNat?_ofNat]
  rfl

/-! ### Integers -/

theorem ofInt_eq (n : Int) :
    ofInt n = if decide (n < 0) then '-' :: ofNat n.natAbs else ofNat n.natAbs := by
  cases n with
  | ofNat k => rfl
  | negSucc k => rw [decide_eq_true (Int.negSucc_lt_zero k)]; rfl

theorem signed_natAbs (n : Int) : signed (n < 0) n.natAbs = n := by
  rw [signed]
  split
  · rename_i negative
    exact neg_eq_iff_eq_neg.mpr (Int.ofNat_natAbs_of_nonpos (of_decide_eq_true negative).le)
  · rename_i other
    exact Int.natAbs_of_nonneg (Int.not_lt.mp (mt decide_eq_true other))

theorem natAbs_signed (negative : Bool) (n : Nat) : (signed negative n).natAbs = n := by
  cases negative <;> simp [signed]

theorem natAbs_lt_of_range {n : Int} (least : minInt64 ≤ n) (most : n ≤ maxInt64) :
    n.natAbs < Nat.pow 2 64 := by
  simp only [minInt64, maxInt64, Nat.pow_eq] at least most ⊢
  omega

theorem int64?_toInt (n : Int64) : int64? n.toInt = some n := by
  have least := n.le_toInt
  have most := n.toInt_lt
  have range : minInt64 ≤ n.toInt ∧ n.toInt ≤ maxInt64 := by
    simp only [minInt64, maxInt64, Nat.pow_eq]
    omega
  rw [int64?, if_pos range, Int64.ofInt_toInt]

theorem toInt_of_int64? {n : Int} {m : Int64} (fits : int64? n = some m) :
    m.toInt = n ∧ minInt64 ≤ n ∧ n ≤ maxInt64 := by
  rw [int64?] at fits
  split at fits
  · rename_i range
    obtain rfl := Option.some.inj fits
    refine ⟨Int64.toInt_ofInt_of_le ?_ ?_, range⟩
    all_goals
      simp only [minInt64, maxInt64, Nat.pow_eq] at range
      omega
  · contradiction

theorem int64?_eq_none_iff {n : Int} : int64? n = none ↔ n < minInt64 ∨ maxInt64 < n := by
  rw [int64?]
  split
  · rename_i range
    exact ⟨nofun, fun outside => by omega⟩
  · rename_i outside
    exact ⟨fun _ => by omega, fun _ => rfl⟩

theorem toInt_clampInt64 (n : Int) :
    (clampInt64 n).toInt = max minInt64 (min n maxInt64) := by
  refine Int64.toInt_ofInt_of_le ?_ ?_
  all_goals
    simp only [minInt64, maxInt64, Nat.pow_eq]
    omega

end EnvTemplate.Decimal
