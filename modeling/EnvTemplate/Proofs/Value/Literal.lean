import EnvTemplate.Proofs.Number.Numeral
import EnvTemplate.Proofs.Text.Cut
import EnvTemplate.Value.Literal
/-! Numbers as literals. The decimal of an integer is read as this integer and as the number nearest
to it; the positional text of a finite number is read as this number, and as an integer as well if it
has no fraction. -/
namespace EnvTemplate.Literal

/-! ### Blanks -/

theorem isLiteralBlank_of_isDigit {c : Char} (digit : c.isDigit = true) :
    Ascii.isLiteralBlank c = false := by
  rw [Bool.eq_false_iff]
  intro blank
  simp only [Ascii.isLiteralBlank, Ascii.isWhitespace, Bool.or_eq_true, beq_iff_eq] at blank
  obtain (((((rfl | rfl) | rfl) | rfl) | rfl) | rfl) | rfl := blank <;>
    exact absurd digit (by decide)

theorem strip_eq_self {text : List Char} (clean : ∀ c ∈ text, Ascii.isLiteralBlank c = false) :
    strip text = text :=
  Text.strip_eq_self (fun c first => clean c (List.mem_of_mem_head? first))
    fun c last => clean c (List.mem_of_mem_getLast? last)

theorem strip_signed {body : List Char} (clean : ∀ c ∈ body, c.isDigit = true ∨ c = '.')
    (negative : Bool) :
    strip (if negative then '-' :: body else body) = if negative then '-' :: body else body := by
  have inner : ∀ c ∈ body, Ascii.isLiteralBlank c = false := by
    intro c member
    obtain digit | rfl := clean c member
    · exact isLiteralBlank_of_isDigit digit
    · rfl
  cases negative with
  | false => exact strip_eq_self inner
  | true => exact strip_eq_self (List.forall_mem_cons.mpr ⟨rfl, inner⟩)

/-- A sign that is written is read. -/
theorem sign_signed {body : List Char} (unsigned : Decimal.sign body = (none, body))
    (negative : Bool) :
    Decimal.sign (if negative then '-' :: body else body) =
      (if negative then some true else none, body) := by
  cases negative with
  | false => exact unsigned
  | true => rfl

theorem getD_sign (negative : Bool) :
    (if negative then some true else none : Option Bool).getD false = negative := by
  cases negative <;> rfl

/-! ### Integers -/

section
variable {text digits : List Char} {negative : Option Bool}
  (signed : Decimal.sign (strip text) = (negative, digits))
include signed

theorem int?_eq :
    int? text =
      if isCanonical digits then
        Decimal.int64? (Decimal.signed (negative.getD false) (Nat.ofDigitChars 10 digits 0))
      else none := by
  rw [int?, signed]

theorem float?_integer (numeral : Decimal.isNumeral digits = true) :
    float? text =
      if (Binary64.ofRatio (negative.getD false) (Nat.ofDigitChars 10 digits 0) 1).isFinite then
        some (.ofRatio (negative.getD false) (Nat.ofDigitChars 10 digits 0) 1)
      else none := by
  rw [float?, FloatNumeral.read?_integer signed numeral, Option.bind_some, FloatNumeral.value,
    Binary64.ofDecimal_zero]

end

theorem isCanonical_ofNat (n : Nat) : isCanonical (Decimal.ofNat n) = true := by
  rw [isCanonical, Decimal.isNumeral_ofNat, Bool.true_and, Bool.or_eq_true]
  obtain rfl | positive := Nat.eq_zero_or_pos n
  · exact .inl rfl
  · obtain ⟨c, rest, shape, leading⟩ := Decimal.exists_ofNat positive
    rw [shape]
    exact .inr (by simpa using leading)

theorem sign_ofInt (n : Int) :
    Decimal.sign (strip (Decimal.ofInt n)) =
      (if decide (n < 0) then some true else none, Decimal.ofNat n.natAbs) := by
  have numeral := Decimal.isNumeral_ofNat n.natAbs
  rw [Decimal.ofInt_eq, strip_signed fun c member => .inl (Decimal.isDigit_of_mem_ofNat c member),
    sign_signed (Decimal.sign_of_isNumeral numeral)]

theorem int?_ofInt (n : Int64) : int? (Decimal.ofInt n.toInt) = some n := by
  rw [int?_eq (sign_ofInt n.toInt), if_pos (isCanonical_ofNat _), getD_sign, Decimal.ofNat,
    Nat.ofDigitChars_ten_toDigits, Decimal.signed_natAbs, Decimal.int64?_toInt]

theorem float?_ofInt (n : Int64) : float? (Decimal.ofInt n.toInt) = some (.ofInt n.toInt) := by
  have finite := Binary64.isFinite_ofInt n
  rw [Binary64.ofInt] at finite
  rw [float?_integer (sign_ofInt n.toInt) (Decimal.isNumeral_ofNat _), getD_sign, Decimal.ofNat,
    Nat.ofDigitChars_ten_toDigits, if_pos finite, Binary64.ofInt]

/-! ### Floats -/

theorem isCanonical_whole {s : Shortest} (decimal : s.IsDecimal) (integral : s.fraction = []) :
    isCanonical s.whole = true := by
  have numeral := Shortest.isNumeral_whole decimal
  have some := decimal.digits_ne_nil
  obtain ⟨c, rest, shape, leading⟩ := decimal.leading
  rw [isCanonical, numeral, Bool.true_and, Bool.or_eq_true]
  obtain ⟨digits, point⟩ := s
  match point with
  | .ofNat 0 => exact absurd integral some
  | .ofNat (p + 1) =>
    obtain rfl : digits = c :: rest := shape
    exact .inr (by simpa [Shortest.whole] using leading)
  | .negSucc p => exact absurd integral (List.append_ne_nil_of_right_ne_nil _ some)

theorem isCanonical_fraction {s : Shortest} (some : s.fraction ≠ []) :
    isCanonical s.positional = false := by
  rw [isCanonical, Decimal.isNumeral, s.positional_of_fraction some]
  simp

section
variable {x : Binary64} (finite : x.isFinite = true) (nonzero : x.isZero = false)
include finite nonzero

theorem sign_toPlainText :
    Decimal.sign (strip x.toPlainText) =
      (if x.isNegative then some true else none, (Shortest.ofBinary64 .up x).positional) := by
  have inside := Binary64.isFinite_iff.mp finite
  have number : x.isNaN = false := by simp [Binary64.isNaN, inside.le]
  have bounded : x.isInfinite = false := by simp [Binary64.isInfinite, inside.ne]
  obtain ⟨decimal, _⟩ := Shortest.ofBinary64_spec .up nonzero
  have shape : x.toPlainText =
      if x.isNegative then '-' :: (Shortest.ofBinary64 .up x).positional
      else (Shortest.ofBinary64 .up x).positional := by
    simp only [Binary64.toPlainText, number, bounded, nonzero, Bool.false_eq_true, if_false]
  rw [shape, strip_signed (Shortest.isDigit_of_mem_positional decimal),
    sign_signed (Shortest.sign_positional decimal)]

/-- A float is read as an integer if its text has no fraction. -/
theorem int?_toPlainText :
    ((Shortest.ofBinary64 .up x).fraction ≠ [] ∧ int? x.toPlainText = none) ∨
      ∃ n : Nat, (Shortest.ofBinary64 .up x).value = n ∧
        int? x.toPlainText = Decimal.int64? (Decimal.signed x.isNegative n) := by
  obtain ⟨decimal, _⟩ := Shortest.ofBinary64_spec .up nonzero
  have signed := sign_toPlainText finite nonzero
  by_cases integral : (Shortest.ofBinary64 .up x).fraction = []
  · refine .inr ⟨Nat.ofDigitChars 10 (Shortest.ofBinary64 .up x).whole 0, ?_, ?_⟩
    · simp [Shortest.value_eq, integral]
    · rw [Shortest.positional_of_integral integral decimal] at signed
      rw [int?_eq signed, if_pos (isCanonical_whole decimal integral), getD_sign]
  · rw [int?_eq signed, isCanonical_fraction integral, if_neg Bool.false_ne_true]
    exact .inl ⟨integral, rfl⟩

end

theorem float?_toPlainText {x : Binary64} (finite : x.isFinite = true) :
    float? x.toPlainText = some x := by
  cases nonzero : x.isZero with
  | true =>
    rw [Binary64.eq_zero nonzero]
    cases x.isNegative <;> decide
  | false =>
    obtain ⟨decimal, _⟩ := Shortest.ofBinary64_spec .up nonzero
    have near := Shortest.near_value .up nonzero
    rw [Shortest.value_eq] at near
    rw [float?, FloatNumeral.read?_positional decimal (sign_toPlainText finite nonzero),
      Option.bind_some, FloatNumeral.value, getD_sign,
      Binary64.ofDecimal_of_near finite nonzero near, Binary64.ofMagnitude_magnitude, if_pos finite]

end EnvTemplate.Literal
