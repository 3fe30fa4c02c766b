import EnvTemplate.Proofs.Entries
import EnvTemplate.Proofs.Json.Problem
import EnvTemplate.Proofs.Number.Rounding
import EnvTemplate.Proofs.Text.Decoding
/-! What reading a JSON document says about its bytes and its numbers: the bytes encode a text, also
inside strings with escapes, and no number is infinite. -/
namespace EnvTemplate

theorem exists_of_bind {ε α β : Type} {result : Except ε α} {f : α → Except ε β} {y : β}
    (given : result >>= f = .ok y) : ∃ x, result = .ok x ∧ f x = .ok y := by
  cases result with
  | error error => exact nomatch given
  | ok x => exact ⟨x, rfl, given⟩

namespace Json

/-! ### Numbers -/

/-- Integers of 64 bits at most, and finite floats. -/
def Number.Bounded : Number → Prop
  | .integer n => n.natAbs < Nat.pow 2 64
  | .float x => x.isFinite = true

namespace Reader

theorem isFinite_power : ∀ n ≤ 308, (power n).isFinite = true := by
  decide +kernel

theorem pow_le_two_mul_size_power {n : Nat} (small : n ≤ 308) :
    (10 : ℚ) ^ n ≤ 2 * (power n).size := by
  have quotient : ((Nat.pow 10 n : Nat) : ℚ) / (1 : Nat) = 10 ^ n := by simp [Nat.pow_eq]
  have least : (1 : ℚ) ≤ (Nat.pow 10 n : Nat) / (1 : Nat) := by
    rw [quotient]
    exact one_le_pow₀ (by norm_num)
  rw [← quotient]
  exact Binary64.div_le_two_mul_size Nat.one_pos least (isFinite_power n small)

/-- Dividing by powers of ten keeps a moderate number moderate: all but the last power make it
smaller, and the last one at most twice as large. -/
theorem isFinite_divideByPower {x : Binary64} {n : Nat} (finite : x.isFinite = true)
    (moderate : x.size ≤ 2 ^ 64) : (divideByPower x n).isFinite = true := by
  fun_induction divideByPower x n with
  | case1 x n small =>
    have power : (1 : ℚ) ≤ 2 * (Reader.power n).size :=
      (one_le_pow₀ (by norm_num)).trans (pow_le_two_mul_size_power small)
    have positive : 0 < (Reader.power n).size := by linarith
    have below : x.size / (Reader.power n).size < 2 ^ 66 := by
      rw [div_lt_iff₀ positive]
      linarith
    exact (Binary64.div_spec positive below (by decide)).1
  | case2 x n large none => exact finite
  | case3 x n large some ih =>
    have power : (10 : ℚ) ^ 1 ≤ 2 * (Reader.power 308).size :=
      (pow_le_pow_right₀ (by norm_num) (by decide)).trans (pow_le_two_mul_size_power le_rfl)
    have positive : 0 < (Reader.power 308).size := by linarith
    have below : x.size / (Reader.power 308).size < 2 ^ 64 := by
      rw [div_lt_iff₀ positive]
      linarith
    obtain ⟨finite, moderate⟩ := Binary64.div_spec positive below (by decide)
    exact ih finite moderate

theorem isFinite_of_scaled? {significand : Nat} {scale : Int} {x : Binary64}
    (fits : significand ≤ maxSignificand) (scaled : scaled? significand scale = some x) :
    x.isFinite = true := by
  have small : (significand : Int).natAbs < Nat.pow 2 64 :=
    Nat.lt_of_le_of_lt fits (Nat.sub_lt (by decide) (by decide))
  obtain ⟨finite, moderate⟩ := Binary64.ofInt_spec small
  unfold scaled? at scaled
  cases scale with
  | ofNat n =>
    dsimp only at scaled
    split at scaled
    · split at scaled
      · contradiction
      · rename_i bounded
        obtain rfl := Option.some.inj scaled
        exact Binary64.isFinite_ofRatio_of_not_isInfinite (by simpa [Binary64.mul] using bounded)
    · split at scaled
      · obtain rfl := Option.some.inj scaled
        exact finite
      · contradiction
  | negSucc n =>
    obtain rfl := Option.some.inj scaled
    exact isFinite_divideByPower finite moderate

/-! ### What is read, and what is left -/

/-- What is left of an input behind the encoding of a text. -/
def After (input rest : List UInt8) : Prop :=
  ∃ front, Utf8.IsText front ∧ input = front ++ rest

theorem After.refl (input : List UInt8) : After input input :=
  ⟨[], Utf8.isText_nil, rfl⟩

theorem After.trans {input middle rest : List UInt8} (first : After input middle)
    (second : After middle rest) : After input rest := by
  obtain ⟨front, text, rfl⟩ := first
  obtain ⟨behind, more, rfl⟩ := second
  exact ⟨front ++ behind, text.append more, (List.append_assoc _ _ _).symm⟩

theorem After.cons {b : UInt8} {input rest : List UInt8} (ascii : b.toNat < 0x80)
    (after : After input rest) : After (b :: input) rest :=
  After.trans ⟨[b], Utf8.isText_singleton ascii, rfl⟩ after

theorem after_dropWhile {p : UInt8 → Bool} (ascii : ∀ b, p b = true → b.toNat < 0x80)
    (input : List UInt8) : After input (input.dropWhile p) := by
  refine ⟨input.takeWhile p, Utf8.isText_of_ascii fun b member => ?_,
    List.takeWhile_append_dropWhile.symm⟩
  exact ascii b (List.all_eq_true.mp List.all_takeWhile b member)

theorem After.isText {input : List UInt8} (whole : After input []) : Utf8.IsText input := by
  obtain ⟨front, text, rfl⟩ := whole
  rwa [List.append_nil]

theorem ascii_of_isDigit {b : UInt8} (digit : isDigit b = true) : b.toNat < 0x80 := by
  simp only [isDigit, Bool.and_eq_true, decide_eq_true_eq, UInt8.le_iff_toNat_le] at digit
  have last : (ascii '9').toNat = 57 := rfl
  omega

theorem ascii_of_isBlank {b : UInt8} (blank : isBlank b = true) : b.toNat < 0x80 := by
  simp only [isBlank, Bool.or_eq_true, beq_iff_eq] at blank
  obtain ((rfl | rfl) | rfl) | rfl := blank <;> decide

theorem ascii_of_isExponentLetter {b : UInt8} (letter : isExponentLetter b = true) :
    b.toNat < 0x80 := by
  simp only [isExponentLetter, Bool.or_eq_true, beq_iff_eq] at letter
  obtain rfl | rfl := letter <;> decide

theorem after_skipBlanks (input : List UInt8) : After input (skipBlanks input) :=
  after_dropWhile (fun _ => ascii_of_isBlank) input

theorem after_of_skipBlanks {input rest : List UInt8} {b : UInt8}
    (skipped : skipBlanks input = b :: rest) (ascii : b.toNat < 0x80) : After input rest := by
  have blanks := after_skipBlanks input
  rw [skipped] at blanks
  exact blanks.trans (.cons ascii (.refl rest))

variable {α : Type}

/-- What is read satisfies `P`, and the bytes that have been read encode a text. -/
def Reads (P : α → Prop) (input : List UInt8) (result : Result α) : Prop :=
  ∀ x rest, result = .ok (x, rest) → P x ∧ After input rest

variable {P : α → Prop} {input middle : List UInt8}

theorem reads_ok {x : α} {rest : List UInt8} (holds : P x) (after : After input rest) :
    Reads P input (.ok (x, rest)) := by
  rintro _ _ ⟨⟩
  exact ⟨holds, after⟩

theorem reads_error (fault : Fault) : Reads P input (.error fault : Result α) :=
  fun _ _ failed => nomatch failed

theorem Reads.after {result : Result α} (reads : Reads P middle result)
    (before : After input middle) : Reads P input result := by
  intro x rest given
  obtain ⟨holds, after⟩ := reads x rest given
  exact ⟨holds, before.trans after⟩

theorem Reads.cons {result : Result α} {b : UInt8} (reads : Reads P input result)
    (ascii : b.toNat < 0x80) : Reads P (b :: input) result :=
  reads.after (.cons ascii (.refl input))

theorem Reads.map {β : Type} {Q : β → Prop} {result : Result α} {f : α → β}
    (reads : Reads P input result) (kept : ∀ x, P x → Q (f x)) :
    Reads Q input (result.map fun (x, rest) => (f x, rest)) := by
  cases result with
  | error fault => exact reads_error fault
  | ok pair =>
    obtain ⟨holds, after⟩ := reads pair.1 pair.2 rfl
    exact reads_ok (kept _ holds) after

theorem reads_finishFloat (negative : Bool) {significand : Nat} (scale : Int)
    (input : List UInt8) (fits : significand ≤ maxSignificand) :
    Reads Number.Bounded input (finishFloat negative significand scale input) := by
  rw [finishFloat]
  split
  · exact reads_error _
  · rename_i x scaled
    refine reads_ok ?_ (.refl input)
    have finite := isFinite_of_scaled? fits scaled
    rw [Number.Bounded]
    split
    · rwa [Binary64.isFinite_neg]
    · exact finite

theorem reads_exponentDigits (negative : Bool) {significand : Nat} (scale : Int)
    (negativeExponent : Bool) (exponent : Nat) (input : List UInt8)
    (fits : significand ≤ maxSignificand) :
    Reads Number.Bounded input
      (exponentDigits negative significand scale negativeExponent exponent input) := by
  fun_induction exponentDigits negative significand scale negativeExponent exponent input with
  | case1 exponent => exact reads_finishFloat negative _ [] fits
  | case2 exponent b rest digit => exact reads_error _
  | case3 exponent b rest digit =>
    refine reads_ok (Binary64.isFinite_zero negative) (.cons (ascii_of_isDigit digit) ?_)
    exact after_dropWhile (fun _ => ascii_of_isDigit) rest
  | case4 exponent b rest digit _ _ ih => exact ih.cons (ascii_of_isDigit digit)
  | case5 exponent b rest digit => exact reads_finishFloat negative _ _ fits

theorem digitValue_le {b : UInt8} (digit : isDigit b = true) : digitValue b ≤ 9 := by
  simp only [isDigit, Bool.and_eq_true, decide_eq_true_eq, UInt8.le_iff_toNat_le] at digit
  have last : (ascii '9').toNat = 57 := rfl
  have zero : '0'.toNat = 48 := rfl
  rw [digitValue]
  omega

theorem digitValue_le_maxSignificand {b : UInt8} (digit : isDigit b = true) :
    digitValue b ≤ maxSignificand :=
  (digitValue_le digit).trans (by decide)

section
variable (negative : Bool) {significand : Nat} (fits : significand ≤ maxSignificand)
include fits

theorem reads_signedExponent (scale : Int) {sign : UInt8}
    (signed : sign = ascii '+' ∨ sign = ascii '-') (digits : List UInt8) :
    Reads Number.Bounded digits (exponentPart negative significand scale (sign :: digits)) := by
  have different : ¬ascii '-' = ascii '+' := by decide
  unfold exponentPart
  obtain rfl | rfl := signed
  all_goals
    simp only [if_pos, if_neg different]
    cases digits with
    | nil => exact reads_error _
    | cons b rest =>
      dsimp only
      split
      · rename_i digit
        exact (reads_exponentDigits negative scale _ _ rest fits).cons (ascii_of_isDigit digit)
      · exact reads_error _

theorem reads_exponentPart (scale : Int) (input : List UInt8) :
    Reads Number.Bounded input (exponentPart negative significand scale input) := by
  cases input with
  | nil => exact reads_error _
  | cons b rest =>
    by_cases signed : b = ascii '+' ∨ b = ascii '-'
    · have low : b.toNat < 0x80 := by obtain rfl | rfl := signed <;> decide
      exact (reads_signedExponent negative fits scale signed rest).cons low
    · obtain ⟨plus, minus⟩ := not_or.mp signed
      have positive : exponentPart negative significand scale (b :: rest) =
          exponentPart negative significand scale (ascii '+' :: b :: rest) := by
        simp only [exponentPart, if_neg plus, if_neg minus, if_pos]
      rw [positive]
      exact reads_signedExponent negative fits scale (.inl rfl) (b :: rest)

theorem reads_afterFraction (scale : Int) (input : List UInt8) :
    Reads Number.Bounded input (afterFraction negative significand scale input) := by
  cases input with
  | nil => exact reads_finishFloat negative scale [] fits
  | cons b rest =>
    rw [afterFraction]
    split
    · rename_i letter
      exact (reads_exponentPart negative fits scale rest).cons (ascii_of_isExponentLetter letter)
    · exact reads_finishFloat negative scale _ fits

theorem reads_fractionDigits (first : Bool) (scale : Int) (input : List UInt8) :
    Reads Number.Bounded input (fractionDigits negative first significand scale input) := by
  fun_induction fractionDigits negative first significand scale input with
  | case1 => exact reads_error _
  | case2 => exact reads_afterFraction negative fits _ []
  | case3 first significand scale b rest digit longer tooLong =>
    have after := after_dropWhile (fun _ => ascii_of_isDigit) rest
    exact ((reads_afterFraction negative fits scale _).after after).cons (ascii_of_isDigit digit)
  | case4 first significand scale b rest digit longer tooLong ih =>
    exact (ih (Nat.le_of_not_lt tooLong)).cons (ascii_of_isDigit digit)
  | case5 => exact reads_error _
  | case6 => exact reads_afterFraction negative fits _ _

theorem reads_longInteger (scale : Int) (input : List UInt8) :
    Reads Number.Bounded input (longInteger negative significand scale input) := by
  fun_induction longInteger negative significand scale input with
  | case1 scale => exact reads_finishFloat negative scale [] fits
  | case2 scale b rest digit ih => exact ih.cons (ascii_of_isDigit digit)
  | case3 scale rest =>
    exact (reads_fractionDigits negative fits true scale rest).cons (by decide)
  | case4 scale b rest digit point letter =>
    exact (reads_exponentPart negative fits scale rest).cons (ascii_of_isExponentLetter letter)
  | case5 scale b rest => exact reads_finishFloat negative scale _ fits

theorem bounded_plainInteger : (plainInteger negative significand).Bounded := by
  have small : significand < Nat.pow 2 64 :=
    Nat.lt_of_le_of_lt fits (Nat.sub_lt (by decide) (by decide))
  rw [plainInteger]
  split
  · exact small
  split
  · rw [Number.Bounded, Binary64.isFinite_neg]
    exact (Binary64.ofInt_spec (n := significand) small).1
  · rwa [Number.Bounded, Int.natAbs_neg]

theorem reads_afterInteger (input : List UInt8) :
    Reads Number.Bounded input (afterInteger negative significand input) := by
  have plain := bounded_plainInteger negative fits
  cases input with
  | nil => exact reads_ok plain (.refl [])
  | cons b rest =>
    rw [afterInteger]
    split
    · rename_i point
      exact (reads_fractionDigits negative fits true 0 rest).cons (by rw [point]; decide)
    split
    · rename_i letter
      exact (reads_exponentPart negative fits 0 rest).cons (ascii_of_isExponentLetter letter)
    · exact reads_ok plain (.refl _)

theorem reads_integerDigits (input : List UInt8) :
    Reads Number.Bounded input (integerDigits negative significand input) := by
  fun_induction integerDigits negative significand input with
  | case1 => exact reads_afterInteger negative fits []
  | case2 significand b rest digit longer tooLong =>
    exact reads_longInteger negative fits 0 _
  | case3 significand b rest digit longer tooLong ih =>
    exact (ih (Nat.le_of_not_lt tooLong)).cons (ascii_of_isDigit digit)
  | case4 => exact reads_afterInteger negative fits _

end

theorem reads_number (negative : Bool) (input : List UInt8) :
    Reads Number.Bounded input (number negative input) := by
  cases input with
  | nil => exact reads_error _
  | cons b rest =>
    rw [number]
    split
    · rename_i zero
      split
      · exact reads_error _
      · exact (reads_afterInteger negative (Nat.zero_le _) rest).cons (by rw [zero]; decide)
    split
    · rename_i digit
      exact (reads_integerDigits negative (digitValue_le_maxSignificand digit) rest).cons
        (ascii_of_isDigit digit)
    · exact reads_error _

/-! ### Strings

The bytes of a string may not encode a text. If they do, so do the bytes that spell them: an escape
stands for a whole character, and every other byte for itself. -/

theorem ascii_of_hexValue? {c : Char} {n : Nat} (digit : Ascii.hexValue? c = some n) :
    c.toNat < 0x80 := by
  have nine : '9'.toNat = 57 := rfl
  have small : 'f'.toNat = 102 := rfl
  have large : 'F'.toNat = 70 := rfl
  rw [Ascii.hexValue?] at digit
  split at digit
  · rename_i decimal
    exact Nat.lt_of_le_of_lt (Char.isDigit_iff_toNat.mp decimal).2 (by decide)
  split at digit
  · rename_i lower
    exact Nat.lt_of_le_of_lt (UInt32.le_iff_toNat_le.mp lower.2) (by decide)
  split at digit
  · rename_i upper
    exact Nat.lt_of_le_of_lt (UInt32.le_iff_toNat_le.mp upper.2) (by decide)
  · contradiction

theorem ascii_of_hexDigit {x : UInt8} {n : Nat}
    (digit : Ascii.hexValue? (.ofNat x.toNat) = some n) : x.toNat < 0x80 := by
  have character := ascii_of_hexValue? digit
  have byte := x.toNat_lt
  rwa [Utf8.toNat_charOfNat (Or.inl (by omega))] at character

theorem ascii_of_hexFour? {a b c d : UInt8} {n : Nat} (hex : hexFour? a b c d = some n) :
    ∀ x ∈ [a, b, c, d], x.toNat < 0x80 := by
  simp only [hexFour?, Option.bind_eq_bind, Option.bind_eq_some_iff] at hex
  obtain ⟨_, first, _, second, _, third, _, fourth, _⟩ := hex
  simp [ascii_of_hexDigit first, ascii_of_hexDigit second, ascii_of_hexDigit third,
    ascii_of_hexDigit fourth]

theorem simpleEscape?_spec {e c : UInt8} (simple : simpleEscape? e = some c) :
    e.toNat < 0x80 ∧ c.toNat < 0x80 := by
  simp only [simpleEscape?] at simple
  repeat' split at simple
  all_goals first | contradiction | skip
  · rename_i same
    obtain rfl := Option.some.inj simple
    obtain rfl | rfl | rfl := same <;> decide
  all_goals
    subst_vars
    obtain rfl := Option.some.inj simple
    decide

/-- The bytes read by a string reader can be put back for the bytes that spelled them. -/
def Unescapes (input : List UInt8) (result : Result (List UInt8)) : Prop :=
  ∀ bytes rest, result = .ok (bytes, rest) → ∃ front, input = front ++ rest ∧
    ∀ before, Utf8.IsText (before ++ bytes) → Utf8.IsText (before ++ front)

theorem unescapes_error (fault : Fault) : Unescapes input (.error fault) :=
  fun _ _ failed => nomatch failed

theorem unescapes_end (rest : List UInt8) : Unescapes (ascii '"' :: rest) (.ok ([], rest)) := by
  rintro _ _ ⟨⟩
  refine ⟨[ascii '"'], rfl, fun before whole => ?_⟩
  rw [List.append_nil] at whole
  exact whole.append (Utf8.isText_singleton (by decide))

theorem exists_of_prepend {front bytes rest : List UInt8} {result : Result (List UInt8)}
    (read : prepend front result = .ok (bytes, rest)) :
    ∃ tail, result = .ok (tail, rest) ∧ bytes = front ++ tail := by
  cases result with
  | error fault => exact nomatch read
  | ok pair =>
    cases read
    exact ⟨_, rfl, rfl⟩

theorem Unescapes.literal {result : Result (List UInt8)} (later : Unescapes input result)
    (b : UInt8) : Unescapes (b :: input) (prepend [b] result) := by
  intro bytes rest read
  obtain ⟨tail, given, rfl⟩ := exists_of_prepend read
  obtain ⟨front, rfl, spells⟩ := later tail rest given
  refine ⟨b :: front, rfl, fun before whole => ?_⟩
  have moved := spells (before ++ [b])
  simp only [List.append_assoc, List.singleton_append] at moved whole
  exact moved whole

theorem Unescapes.escape {result : Result (List UInt8)} (later : Unescapes input result)
    (escape : List UInt8) (c : Char) (plain : ∀ b ∈ escape, b.toNat < 0x80) :
    Unescapes (escape ++ input) (prepend (Utf8.encodeChar c) result) := by
  intro bytes rest read
  obtain ⟨tail, given, rfl⟩ := exists_of_prepend read
  obtain ⟨front, rfl, spells⟩ := later tail rest given
  refine ⟨escape ++ front, (List.append_assoc _ _ _).symm, fun before whole => ?_⟩
  obtain ⟨first, last⟩ := whole.around
  exact first.append ((Utf8.isText_of_ascii plain).append (spells [] last))

theorem unescapes_stringBytes (input : List UInt8) : Unescapes input (stringBytes input) := by
  fun_induction stringBytes input with
  | case2 rest => exact unescapes_end rest
  | case4 e rest c simple _ ih =>
    obtain ⟨letter, plain⟩ := simpleEscape?_spec simple
    have escaped := ih.escape [ascii '\\', e] (.ofNat c.toNat) (by simp [letter, ascii])
    rwa [Utf8.encodeChar_one plain, ← Utf8.eq_ofNat_of_toNat rfl] at escaped
  | case8 u _ isU a b c d rest n hex _ _ _ ih =>
    refine ih.escape [ascii '\\', u, a, b, c, d] (.ofNat n) ?_
    have digits := ascii_of_hexFour? hex
    obtain rfl := not_not.mp isU
    simp_all [ascii]
  | case15 u _ isU a b c d n hex _ _ x isX v isV a' b' c' d' rest m hex' _ _ ih =>
    refine ih.escape [ascii '\\', u, a, b, c, d, x, v, a', b', c', d'] _ ?_
    have digits := ascii_of_hexFour? hex
    have more := ascii_of_hexFour? hex'
    obtain rfl := not_not.mp isU
    obtain rfl := not_not.mp isX
    obtain rfl := not_not.mp isV
    simp_all [ascii]
  | case19 b rest _ _ _ ih => exact ih.literal b
  | _ => exact unescapes_error _

theorem reads_string (input : List UInt8) : Reads (fun _ => True) input (string input) := by
  intro text rest read
  have unescapes := unescapes_stringBytes input
  rw [string] at read
  generalize stringBytes input = result at read unescapes
  cases result with
  | error fault => exact nomatch read
  | ok pair =>
    dsimp only at read
    split at read
    · rename_i decoded
      cases read
      obtain ⟨front, same, spells⟩ := unescapes _ _ rfl
      have whole := Utf8.decode?_eq_some_iff.mp decoded
      exact ⟨trivial, front, spells [] ⟨_, whole⟩, same⟩
    · contradiction

end Reader

/-! ### Documents -/

inductive Bounded : Json → Prop
  | null : Bounded .null
  | bool (b : Bool) : Bounded (.bool b)
  | integer {n : Int} : n.natAbs < Nat.pow 2 64 → Bounded (.integer n)
  | float {x : Binary64} : x.isFinite = true → Bounded (.float x)
  | string (s : String) : Bounded (.string s)
  | array {items : List Json} : (∀ item ∈ items, Bounded item) → Bounded (.array items)
  | object {members : List (String × Json)} : (∀ member ∈ members, Bounded member.2) →
      Bounded (.object members)

theorem Number.Bounded.toJson {n : Number} (bounded : n.Bounded) : n.toJson.Bounded := by
  cases n with
  | integer n => exact .integer bounded
  | float x => exact .float bounded

/-- A property of documents that a document has if its parts have it. The keys of an object are told
apart when it is put together. -/
structure Invariant (P : Json → Prop) : Prop where
  null : P .null
  bool (b : Bool) : P (.bool b)
  number {n : Number} : n.Bounded → P n.toJson
  string (s : String) : P (.string s)
  array {items : List Json} : (∀ item ∈ items, P item) → P (.array items)
  object {members : List (String × Json)} : (∀ member ∈ members, P member.2) →
    P (.object (Entries.ofPairs members))

theorem invariant_bounded : Invariant Bounded where
  null := .null
  bool := .bool
  number := Number.Bounded.toJson
  string := .string
  array := .array
  object all := .object (Entries.forall_ofPairs all)

namespace Reader

theorem after_of_ident {expected : List Char} (plain : expected.all (·.toNat < 0x80) = true)
    {rest : List UInt8} (read : ident expected input = .ok rest) : After input rest := by
  fun_induction ident expected input with
  | case1 input =>
    cases read
    exact .refl _
  | case2 => contradiction
  | case3 e es input ih =>
    obtain ⟨first, later⟩ := Bool.and_eq_true_iff.mp (List.all_cons ▸ plain)
    have letter : (ascii e).toNat < 0x80 := by
      have small := of_decide_eq_true first
      rwa [ascii, Utf8.toNat_ofNat (by omega)]
    exact .cons letter (ih later read)
  | case4 => contradiction

theorem reads_ident {expected : List Char} (plain : expected.all (·.toNat < 0x80) = true)
    {x : α} (holds : P x) :
    Reads P input ((ident expected input).map fun rest => (x, rest)) := by
  cases read : ident expected input with
  | error fault => exact reads_error fault
  | ok rest => exact reads_ok holds (after_of_ident plain read)

theorem after_of_nextItem {first : Bool} {next : Option (List UInt8)} {rest : List UInt8}
    (read : nextItem first input = .ok (next, rest)) :
    next = none ∧ After input rest ∨ ∃ start, next = some start ∧ After input start := by
  rw [nextItem] at read
  cases skipped : skipBlanks input with
  | nil =>
    rw [skipped] at read
    contradiction
  | cons b behind =>
    have blanks : After input (b :: behind) := skipped ▸ after_skipBlanks input
    rw [skipped] at read
    dsimp only at read
    split at read
    · rename_i closing
      cases read
      exact .inl ⟨rfl, after_of_skipBlanks skipped (by rw [closing]; decide)⟩
    split at read
    · cases read
      exact .inr ⟨_, rfl, blanks⟩
    split at read
    · rename_i comma
      have separated := after_of_skipBlanks skipped (by rw [comma]; decide)
      have more := after_skipBlanks behind
      split at read
      · contradiction
      split at read
      · contradiction
      · rename_i next _
        cases read
        exact .inr ⟨_, rfl, separated.trans (next ▸ more)⟩
    · contradiction

theorem after_of_nextKey {first : Bool} {next : Option (List UInt8)} {rest : List UInt8}
    (read : nextKey first input = .ok (next, rest)) :
    next = none ∧ After input rest ∨ ∃ start, next = some start ∧ After input start := by
  rw [nextKey] at read
  cases skipped : skipBlanks input with
  | nil =>
    rw [skipped] at read
    contradiction
  | cons b behind =>
    rw [skipped] at read
    dsimp only at read
    split at read
    · rename_i closing
      cases read
      exact .inl ⟨rfl, after_of_skipBlanks skipped (by rw [closing]; decide)⟩
    split at read
    · split at read
      · rename_i quote
        cases read
        exact .inr ⟨_, rfl, after_of_skipBlanks skipped (by rw [quote]; decide)⟩
      · contradiction
    split at read
    · rename_i comma
      have separated := after_of_skipBlanks skipped (by rw [comma]; decide)
      split at read
      · contradiction
      rename_i next
      split at read
      · rename_i quote
        cases read
        exact .inr ⟨_, rfl, separated.trans (after_of_skipBlanks next (by rw [quote]; decide))⟩
      · split at read <;> contradiction
    · contradiction

theorem after_of_colon {rest : List UInt8} (read : colon input = .ok rest) : After input rest := by
  rw [colon] at read
  split at read
  · contradiction
  · rename_i skipped
    split at read
    · rename_i mark
      cases read
      exact after_of_skipBlanks skipped (by rw [mark]; decide)
    · contradiction

section
variable {Q : Json → Prop}

theorem reads_items {item : Reader Json} (each : ∀ input, Reads Q input (item input))
    (bound : Nat) (first : Bool) (input : List UInt8) :
    Reads (fun items => ∀ x ∈ items, Q x) input (items item bound first input) := by
  fun_induction items item bound first input with
  | case1 => exact reads_error _
  | case2 => exact reads_error _
  | case3 bound first input rest next =>
    obtain ⟨_, after⟩ | ⟨_, found, _⟩ := after_of_nextItem next
    · exact reads_ok (List.forall_mem_nil _) after
    · contradiction
  | case4 => exact reads_error _
  | case5 => exact reads_error _
  | case6 bound first input start _ next x rest given xs rest' later ih =>
    obtain ⟨missing, _⟩ | ⟨_, found, after⟩ := after_of_nextItem next
    · contradiction
    cases found
    obtain ⟨held, behind⟩ := each start _ _ given
    obtain ⟨all, last⟩ := ih _ _ later
    exact reads_ok (List.forall_mem_cons.mpr ⟨held, all⟩) ((after.trans behind).trans last)

theorem reads_members {value : Reader Json} (each : ∀ input, Reads Q input (value input))
    (bound : Nat) (first : Bool) (input : List UInt8) :
    Reads (fun members => ∀ x ∈ members, Q x.2) input
      (members value bound first input) := by
  induction bound generalizing first input with
  | zero => exact reads_error _
  | succ bound ih =>
    rw [members]
    cases next : nextKey first input with
    | error fault => exact reads_error _
    | ok found =>
      obtain ⟨start, rest⟩ := found
      obtain ⟨rfl, after⟩ | ⟨start, rfl, after⟩ := after_of_nextKey next
      · exact reads_ok (List.forall_mem_nil _) after
      · intro entries last read
        obtain ⟨⟨key, rest⟩, named, read⟩ := exists_of_bind read
        obtain ⟨behind, separated, read⟩ := exists_of_bind read
        obtain ⟨⟨x, rest⟩, given, read⟩ := exists_of_bind read
        obtain ⟨⟨xs, rest⟩, later, read⟩ := exists_of_bind read
        cases read
        obtain ⟨_, keyed⟩ := reads_string start _ _ named
        obtain ⟨held, valued⟩ := each _ _ _ given
        obtain ⟨all, ended⟩ := ih _ _ _ _ later
        have colon := after_of_colon separated
        exact ⟨List.forall_mem_cons.mpr ⟨held, all⟩,
          (((after.trans keyed).trans colon).trans valued).trans ended⟩

variable (invariant : Invariant Q)
include invariant

theorem reads_valueWith {container : UInt8 → Reader Json}
    (contained : ∀ opening rest, Reads Q rest (container opening rest))
    (input : List UInt8) : Reads Q input (valueWith container input) := by
  rw [valueWith]
  cases skipped : skipBlanks input with
  | nil => exact reads_error _
  | cons b rest =>
    have blanks : After input (b :: rest) := skipped ▸ after_skipBlanks input
    refine Reads.after ?_ blanks
    dsimp only
    split
    · rename_i letter
      exact (reads_ident (by decide) invariant.null).cons (by rw [letter]; decide)
    split
    · rename_i letter
      exact (reads_ident (by decide) (invariant.bool true)).cons (by rw [letter]; decide)
    split
    · rename_i letter
      exact (reads_ident (by decide) (invariant.bool false)).cons (by rw [letter]; decide)
    split
    · rename_i minus
      exact ((reads_number true rest).map fun _ => invariant.number).cons
        (by rw [minus]; decide)
    split
    · exact (reads_number false _).map fun _ => invariant.number
    split
    · rename_i quote
      exact ((reads_string rest).map fun text _ => invariant.string text).cons (by rw [quote]; decide)
    split
    · rename_i bracket
      refine (contained b rest).cons ?_
      obtain rfl | rfl := bracket <;> decide
    · exact reads_error _

theorem reads_value (depth : Nat) (input : List UInt8) : Reads Q input (value depth input) := by
  induction depth generalizing input with
  | zero => exact reads_valueWith invariant (fun _ _ => reads_error _) input
  | succ depth ih =>
    refine reads_valueWith invariant (fun opening rest => ?_) input
    split
    · exact (reads_items ih _ true rest).map fun _ => invariant.array
    · exact (reads_members ih _ true rest).map fun _ => invariant.object

end

end Reader

/-- The bytes of a document encode a text, and what every part of a document keeps holds of it. -/
theorem Invariant.of_read {P : Json → Prop} (invariant : Invariant P) {input : List UInt8}
    {document : Json} (given : read input = .ok document) : Utf8.IsText input ∧ P document := by
  rw [read, readAll] at given
  split at given
  · rename_i finished
    cases given
    unfold finish at finished
    split at finished
    · contradiction
    split at finished
    · rename_i rest read _ blank
      cases finished
      obtain ⟨holds, after⟩ := Reader.reads_value invariant maxDepth input _ _ read
      have ended := Reader.after_skipBlanks rest
      rw [blank] at ended
      exact ⟨(after.trans ended).isText, holds⟩
    · contradiction
  · contradiction

theorem read_spec {input : List UInt8} {document : Json} (given : read input = .ok document) :
    Utf8.IsText input ∧ document.Bounded :=
  invariant_bounded.of_read given

end Json
end EnvTemplate
