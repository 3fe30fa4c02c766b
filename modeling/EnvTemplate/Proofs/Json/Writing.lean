import EnvTemplate.Proofs.Json.Reading
import EnvTemplate.Proofs.Number.Decimal
/-! What is written for a JSON document is read as this document again. Each part is read up to what
follows it: a string up to its closing quote, a number up to a byte that cannot go on with it, and a
container up to its bracket. Floats are left out: reading does not always give the nearest one. -/
namespace EnvTemplate.Json

namespace Reader

theorem encode_cons {c : Char} (low : c.toNat < 0x80) (text : List Char) :
    Utf8.encode (c :: text) = ascii c :: Utf8.encode text := by
  rw [Utf8.encode_cons, Utf8.encodeChar_of_ascii low]
  rfl

/-! ### Strings -/

variable {rest : List UInt8}

theorem prepend_prepend (front behind : List UInt8) (result : Result (List UInt8)) :
    prepend front (prepend behind result) = prepend (front ++ behind) result := by
  cases result with
  | error fault => rfl
  | ok pair => simp [prepend]

theorem stringBytes_simpleEscape {e c : UInt8} (simple : simpleEscape? e = some c)
    (rest : List UInt8) :
    stringBytes (ascii '\\' :: e :: rest) = prepend [c] (stringBytes rest) := by
  rw [stringBytes.eq_def]
  dsimp only
  rw [if_neg (by decide), if_pos rfl, simple]

/-- The escape of a control character. -/
theorem stringBytes_hexEscape {a b c d : UInt8} {n : Nat} (hex : hexFour? a b c d = some n)
    (small : n < 0x20) (rest : List UInt8) :
    stringBytes (ascii '\\' :: ascii 'u' :: a :: b :: c :: d :: rest) =
      prepend (codePoint n) (stringBytes rest) := by
  have letter : simpleEscape? (ascii 'u') = none := by decide
  rw [stringBytes.eq_def]
  dsimp only
  rw [if_neg (by decide), if_pos rfl, letter]
  dsimp only
  rw [if_neg (not_not.mpr rfl), hex]
  dsimp only
  rw [if_neg (by omega), if_pos (by omega)]

/-- Bytes that stand for themselves inside a string. -/
def IsLiteral (b : UInt8) : Prop :=
  b ≠ ascii '"' ∧ b ≠ ascii '\\' ∧ ¬ b < 0x20

theorem stringBytes_literals {bytes : List UInt8} (literal : ∀ b ∈ bytes, IsLiteral b)
    (rest : List UInt8) :
    stringBytes (bytes ++ rest) = prepend bytes (stringBytes rest) := by
  induction bytes with
  | nil =>
    rw [List.nil_append]
    cases stringBytes rest <;> rfl
  | cons b bytes ih =>
    obtain ⟨⟨quote, backslash, printable⟩, later⟩ := List.forall_mem_cons.mp literal
    rw [List.cons_append, stringBytes.eq_def]
    dsimp only
    rw [if_neg quote, if_neg backslash, if_neg printable, ih later, prepend_prepend]
    rfl

theorem isLiteral_encodeChar {c : Char} (quote : c ≠ '"') (backslash : c ≠ '\\')
    (printable : ¬ c.toNat < 0x20) : ∀ b ∈ Utf8.encodeChar c, IsLiteral b := by
  have numbers : (ascii '"').toNat = 34 ∧ (ascii '\\').toNat = 92 ∧ (0x20 : UInt8).toNat = 32 :=
    ⟨rfl, rfl, rfl⟩
  by_cases low : c.toNat < 0x80
  · have value : (ascii c).toNat = c.toNat := Utf8.toNat_ofNat (by omega)
    have other : ∀ d : Char, c ≠ d → d.toNat < 0x80 → ascii c ≠ ascii d := by
      intro d different small same
      have code : (ascii d).toNat = d.toNat := Utf8.toNat_ofNat (by omega)
      exact different (Char.toNat_inj.mp (value ▸ code ▸ congrArg UInt8.toNat same))
    rw [Utf8.encodeChar_of_ascii low]
    refine List.forall_mem_singleton.mpr ⟨other _ quote (by decide), other _ backslash (by decide), ?_⟩
    rwa [UInt8.lt_iff_toNat_lt, numbers.2.2, Utf8.toNat_ofNat (by omega)]
  · intro b member
    have high := Utf8.le_of_mem_encodeChar (Nat.le_of_not_lt low) b member
    simp only [IsLiteral, ne_eq, ← UInt8.toNat_inj, UInt8.lt_iff_toNat_lt, numbers]
    omega

theorem hexFour?_hexDigit : ∀ n < 0x20, hexFour? (ascii '0') (ascii '0')
    (ascii (hexDigit (n / 16))) (ascii (hexDigit (n % 16))) = some n := by
  decide

theorem encode_hexEscape : ∀ n < 0x20,
    Utf8.encode ['\\', 'u', '0', '0', hexDigit (n / 16), hexDigit (n % 16)] =
      [ascii '\\', ascii 'u', ascii '0', ascii '0', ascii (hexDigit (n / 16)),
        ascii (hexDigit (n % 16))] := by
  decide

/-- A written character is read as its encoding. -/
theorem stringBytes_writeChar (c : Char) (rest : List UInt8) :
    stringBytes (Utf8.encode (writeChar c) ++ rest) =
      prepend (Utf8.encodeChar c) (stringBytes rest) := by
  have escape : ∀ e b : Char, simpleEscape? (ascii e) = some (ascii b) →
      Utf8.encode ['\\', e] = [ascii '\\', ascii e] → Utf8.encodeChar b = [ascii b] →
      stringBytes (Utf8.encode ['\\', e] ++ rest) =
        prepend (Utf8.encodeChar b) (stringBytes rest) := by
    intro e b simple written encoded
    rw [written, encoded]
    exact stringBytes_simpleEscape simple rest
  unfold writeChar
  by_cases quote : c = '"'
  · subst quote
    exact escape '"' '"' (by decide) (by decide) (by decide)
  by_cases backslash : c = '\\'
  · subst backslash
    exact escape '\\' '\\' (by decide) (by decide) (by decide)
  by_cases backspace : c = '\x08'
  · subst backspace
    exact escape 'b' '\x08' (by decide) (by decide) (by decide)
  by_cases formFeed : c = '\x0c'
  · subst formFeed
    exact escape 'f' '\x0c' (by decide) (by decide) (by decide)
  by_cases lineFeed : c = '\n'
  · subst lineFeed
    exact escape 'n' '\n' (by decide) (by decide) (by decide)
  by_cases carriageReturn : c = '\r'
  · subst carriageReturn
    exact escape 'r' '\r' (by decide) (by decide) (by decide)
  by_cases tab : c = '\t'
  · subst tab
    exact escape 't' '\t' (by decide) (by decide) (by decide)
  rw [if_neg quote, if_neg backslash, if_neg backspace, if_neg formFeed, if_neg lineFeed,
    if_neg carriageReturn, if_neg tab]
  by_cases control : c.toNat < 0x20
  · rw [if_pos control, encode_hexEscape _ control]
    have read := stringBytes_hexEscape (hexFour?_hexDigit _ control) control rest
    rwa [codePoint, Char.ofNat_toNat] at read
  · rw [if_neg control]
    have whole : Utf8.encode [c] = Utf8.encodeChar c := List.append_nil _
    rw [whole]
    exact stringBytes_literals (isLiteral_encodeChar quote backslash control) rest

theorem stringBytes_written (text : List Char) (rest : List UInt8) :
    stringBytes (Utf8.encode (text.flatMap writeChar ++ ['"']) ++ rest) =
      .ok (Utf8.encode text, rest) := by
  induction text with
  | nil =>
    rw [List.flatMap_nil, List.nil_append, encode_cons (by decide), List.cons_append,
      stringBytes.eq_def]
    rfl
  | cons c text ih =>
    rw [List.flatMap_cons, List.append_assoc, Utf8.encode_append, List.append_assoc,
      stringBytes_writeChar, ih]
    rfl

theorem string_written (s : String) (rest : List UInt8) :
    string (Utf8.encode (s.toList.flatMap writeChar ++ ['"']) ++ rest) = .ok (s, rest) := by
  have decoded : Utf8.decode? (Utf8.encode s.toList) = some s.toList :=
    Utf8.decode?_eq_some_iff.mpr rfl
  rw [string, stringBytes_written]
  simp only [decoded, String.ofList_toList]

/-! ### Numbers -/

/-- What can follow a number: nothing that goes on with it. -/
def Ends (rest : List UInt8) : Prop :=
  ∀ b ∈ rest.head?, isDigit b = false ∧ b ≠ ascii '.' ∧ isExponentLetter b = false

theorem ends_nil : Ends [] := by simp [Ends]

theorem ends_cons {b : UInt8} (other : isDigit b = false) (point : b ≠ ascii '.')
    (letter : isExponentLetter b = false) (rest : List UInt8) : Ends (b :: rest) := by
  simp [Ends, other, point, letter]

theorem digit_ascii {c : Char} (digit : c.isDigit = true) :
    isDigit (ascii c) = true ∧ digitValue (ascii c) = c.toNat - '0'.toNat := by
  have range : 48 ≤ c.toNat ∧ c.toNat ≤ 57 := Char.isDigit_iff_toNat.mp digit
  have value : (ascii c).toNat = c.toNat := Utf8.toNat_ofNat (by omega)
  have zero : (ascii '0').toNat = 48 := rfl
  have nine : (ascii '9').toNat = 57 := rfl
  simp only [isDigit, digitValue, Bool.and_eq_true, decide_eq_true_eq, UInt8.le_iff_toNat_le, value,
    and_true]
  omega

theorem afterInteger_of_ends (negative : Bool) (n : Nat) (ends : Ends rest) :
    afterInteger negative n rest = .ok (plainInteger negative n, rest) := by
  cases rest with
  | nil => rfl
  | cons b rest =>
    obtain ⟨_, point, letter⟩ := ends b rfl
    rw [afterInteger, if_neg point, if_neg (by simp [letter])]

theorem integerDigits_append (negative : Bool) {digits : List Char} {first : Nat}
    (numeral : ∀ c ∈ digits, c.isDigit = true)
    (fits : Nat.ofDigitChars 10 digits first ≤ maxSignificand) (ends : Ends rest) :
    integerDigits negative first (Utf8.encode digits ++ rest) =
      .ok (plainInteger negative (Nat.ofDigitChars 10 digits first), rest) := by
  induction digits generalizing first with
  | nil =>
    have plain := afterInteger_of_ends negative first ends
    cases rest with
    | nil => exact plain
    | cons b rest =>
      have other := (ends b rfl).1
      rw [Utf8.encode, List.flatMap_nil, List.nil_append, integerDigits, if_neg (by simp [other])]
      exact plain
  | cons c digits ih =>
    obtain ⟨digit, later⟩ := List.forall_mem_cons.mp numeral
    obtain ⟨isDigit, value⟩ := digit_ascii digit
    have low : c.toNat < 0x80 := Decimal.toNat_lt_of_isDigit digit
    rw [Nat.ofDigitChars_cons, Nat.mul_comm, ← value] at fits
    have longer : first * 10 + digitValue (ascii c) ≤ maxSignificand :=
      (Decimal.le_ofDigitChars digits _).trans fits
    rw [encode_cons low, List.cons_append, integerDigits, if_pos isDigit]
    dsimp only
    rw [if_neg (Nat.not_lt.mpr longer), ih later fits, Nat.ofDigitChars_cons, Nat.mul_comm 10, value]

/-- A written integer of 64 bits is read up to what follows it. -/
theorem number_written (negative : Bool) {n : Nat} (fits : n ≤ maxSignificand) (ends : Ends rest) :
    number negative (Utf8.encode (Decimal.ofNat n) ++ rest) =
      .ok (plainInteger negative n, rest) := by
  obtain rfl | positive := Nat.eq_zero_or_pos n
  · have none : (rest.head?).any isDigit = false := by
      cases rest with
      | nil => rfl
      | cons b rest => exact (ends b rfl).1
    have zero : Utf8.encode (Decimal.ofNat 0) = [ascii '0'] := by decide
    rw [zero, List.singleton_append, number, if_pos rfl, if_neg (by simp [none])]
    exact afterInteger_of_ends negative 0 ends
  · obtain ⟨c, digits, shape, nonzero⟩ := Decimal.exists_ofNat positive
    have numeral : ∀ d ∈ c :: digits, d.isDigit = true := shape ▸ Decimal.isDigit_of_mem_ofNat
    have same : Nat.ofDigitChars 10 (c :: digits) 0 = n := by
      rw [← shape]
      exact Nat.ofDigitChars_ten_toDigits
    obtain ⟨digit, later⟩ := List.forall_mem_cons.mp numeral
    obtain ⟨isDigit, value⟩ := digit_ascii digit
    have low : c.toNat < 0x80 := Decimal.toNat_lt_of_isDigit digit
    have other : ascii c ≠ ascii '0' := by
      intro zero
      have code : (ascii c).toNat = c.toNat := Utf8.toNat_ofNat (by omega)
      exact nonzero (Char.toNat_inj.mp (code ▸ congrArg UInt8.toNat zero))
    rw [Nat.ofDigitChars_cons, Nat.mul_zero, Nat.zero_add, ← value] at same
    rw [shape, encode_cons low, List.cons_append, number, if_neg other, if_pos isDigit,
      integerDigits_append negative later (same ▸ fits) ends, same]

theorem exists_digit_ofNat (n : Nat) :
    ∃ b tail, isDigit b = true ∧ Utf8.encode (Decimal.ofNat n) = b :: tail := by
  have some : Decimal.ofNat n ≠ [] := Nat.toDigits_ne_nil
  obtain ⟨c, digits, shape⟩ := List.exists_cons_of_ne_nil some
  have digit : c.isDigit = true :=
    Decimal.isDigit_of_mem_ofNat c (shape ▸ List.mem_cons_self)
  rw [shape]
  exact ⟨_, _, (digit_ascii digit).1, encode_cons (Decimal.toNat_lt_of_isDigit digit) _⟩

/-! ### Values -/

theorem skipBlanks_cons {b : UInt8} (visible : isBlank b = false) (rest : List UInt8) :
    skipBlanks (b :: rest) = b :: rest := by
  rw [skipBlanks, List.dropWhile_cons_of_neg (by simp [visible])]

section
variable (container : UInt8 → Reader Json)

theorem valueWith_null (rest : List UInt8) :
    valueWith container (Utf8.encode "null".toList ++ rest) = .ok (.null, rest) := rfl

theorem valueWith_true (rest : List UInt8) :
    valueWith container (Utf8.encode "true".toList ++ rest) = .ok (.bool true, rest) := rfl

theorem valueWith_false (rest : List UInt8) :
    valueWith container (Utf8.encode "false".toList ++ rest) = .ok (.bool false, rest) := rfl

theorem valueWith_string (s : String) (rest : List UInt8) :
    valueWith container (Utf8.encode (writeString s) ++ rest) = .ok (.string s, rest) := by
  rw [writeString, encode_cons (by decide), List.cons_append, valueWith,
    skipBlanks_cons (by decide)]
  have read := string_written s rest
  simp only [read]
  rfl

theorem valueWith_container {opening : UInt8} (bracket : opening = ascii '[' ∨ opening = ascii '{')
    (rest : List UInt8) : valueWith container (opening :: rest) = container opening rest := by
  obtain rfl | rfl := bracket <;> rfl

theorem ne_of_isDigit {b x : UInt8} (digit : isDigit b = true) (other : isDigit x = false) :
    b ≠ x := by
  rintro rfl
  rw [digit] at other
  contradiction

theorem not_isBlank_of_isDigit {b : UInt8} (digit : isDigit b = true) : isBlank b = false := by
  simp only [isBlank, Bool.or_eq_false_iff, beq_eq_false_iff_ne]
  exact ⟨⟨⟨ne_of_isDigit digit (by decide), ne_of_isDigit digit (by decide)⟩,
    ne_of_isDigit digit (by decide)⟩, ne_of_isDigit digit (by decide)⟩

theorem valueWith_digit {b : UInt8} (digit : isDigit b = true) (rest : List UInt8) :
    valueWith container (b :: rest) =
      (number false (b :: rest)).map fun (n, rest) => (n.toJson, rest) := by
  rw [valueWith, skipBlanks_cons (not_isBlank_of_isDigit digit)]
  dsimp only
  rw [if_neg (ne_of_isDigit digit (by decide)), if_neg (ne_of_isDigit digit (by decide)),
    if_neg (ne_of_isDigit digit (by decide)), if_neg (ne_of_isDigit digit (by decide)), if_pos digit]

theorem valueWith_minus (rest : List UInt8) :
    valueWith container (ascii '-' :: rest) =
      (number true rest).map fun (n, rest) => (n.toJson, rest) := rfl

/-- Integers are read as such as long as they fit 64 bits, signed for a negative one. -/
theorem valueWith_integer {n : Int} (least : -Nat.pow 2 63 ≤ n) (most : n < Nat.pow 2 64)
    {rest : List UInt8} (ends : Ends rest) :
    valueWith container (Utf8.encode (Decimal.ofInt n) ++ rest) = .ok (.integer n, rest) := by
  cases n with
  | ofNat n =>
    have fits : n ≤ maxSignificand := Nat.le_sub_one_of_lt (Int.ofNat_lt.mp most)
    have read := number_written false fits ends
    obtain ⟨b, tail, digit, shape⟩ := exists_digit_ofNat n
    rw [shape, List.cons_append] at read
    rw [Decimal.ofInt, shape, List.cons_append, valueWith_digit container digit, read]
    rfl
  | negSucc n =>
    have bound : n + 1 ≤ Nat.pow 2 63 := by omega
    have fits : n + 1 ≤ maxSignificand := bound.trans (by decide)
    have plain : plainInteger true (n + 1) = .integer (-((n + 1 : Nat) : Int)) := by
      rw [plainInteger, if_neg (by decide), if_neg (by omega)]
    rw [Decimal.ofInt, encode_cons (by decide), List.cons_append, valueWith_minus,
      number_written true fits ends, plain]
    rfl

end

/-! ### Containers -/

/-- Bytes that can begin an item of a list. -/
def Begins (input : List UInt8) : Prop :=
  ∃ b tail, input = b :: tail ∧ isBlank b = false ∧ b ≠ ascii ']'

theorem Begins.append {input : List UInt8} (begins : Begins input) (rest : List UInt8) :
    Begins (input ++ rest) := by
  obtain ⟨b, tail, rfl, visible, other⟩ := begins
  exact ⟨b, tail ++ rest, rfl, visible, other⟩

theorem begins_encode {c : Char} (low : c.toNat < 0x80) (visible : isBlank (ascii c) = false)
    (other : ascii c ≠ ascii ']') (text : List Char) : Begins (Utf8.encode (c :: text)) :=
  ⟨_, _, encode_cons low text, visible, other⟩

theorem nextItem_first {input : List UInt8} (begins : Begins input) :
    ∃ tail, nextItem true input = .ok (some input, tail) := by
  obtain ⟨b, tail, rfl, visible, other⟩ := begins
  refine ⟨tail, ?_⟩
  rw [nextItem, skipBlanks_cons visible]
  dsimp only
  rw [if_neg other, if_pos rfl]

theorem nextItem_comma {input : List UInt8} (begins : Begins input) :
    ∃ tail, nextItem false (ascii ',' :: input) = .ok (some input, tail) := by
  obtain ⟨b, tail, rfl, visible, other⟩ := begins
  refine ⟨tail, ?_⟩
  rw [nextItem, skipBlanks_cons (by decide)]
  dsimp only
  rw [if_neg (by decide), if_neg (by decide), if_pos rfl, skipBlanks_cons visible]
  dsimp only
  rw [if_neg other]

/-- What a reader of values must give back of a document, whatever follows the document. -/
structure ReadsBack (read : Reader Json) (document : Json) : Prop where
  begins : Begins (Utf8.encode document.write)
  gives : ∀ rest, Ends rest → read (Utf8.encode document.write ++ rest) = .ok (document, rest)

theorem writeItems_cons (x : Json) (xs : List Json) :
    writeItems (x :: xs) = x.write ++ xs.flatMap fun y => ',' :: y.write := by
  induction xs generalizing x with
  | nil => simp [writeItems]
  | cons y ys ih =>
    rw [writeItems, ih, List.flatMap_cons, List.cons_append]
    exact List.cons_ne_nil y ys

def writeMember (member : String × Json) : List Char :=
  writeString member.1 ++ ':' :: member.2.write

theorem writeMembers_cons (m : String × Json) (ms : List (String × Json)) :
    writeMembers (m :: ms) = writeMember m ++ ms.flatMap fun n => ',' :: writeMember n := by
  induction ms generalizing m with
  | nil => simp [writeMembers, writeMember]
  | cons n ns ih =>
    have more := List.cons_ne_nil n ns
    rw [writeMembers.eq_3 _ _ _ more, ih]
    simp only [List.flatMap_cons, writeMember, List.append_assoc, List.cons_append]

theorem length_le_length_encode_flatMap {α : Type} (write : α → List Char) (xs : List α) :
    xs.length ≤ (Utf8.encode (xs.flatMap fun x => ',' :: write x)).length := by
  induction xs with
  | nil => exact Nat.zero_le _
  | cons x xs ih =>
    rw [List.flatMap_cons, List.cons_append, encode_cons (by decide), Utf8.encode_append,
      List.length_cons, List.length_cons, List.length_append]
    omega

theorem ends_separated {α : Type} (write : α → List Char) (xs : List α) {closing : UInt8}
    (bracket : closing = ascii ']' ∨ closing = ascii '\x7d') (rest : List UInt8) :
    Ends (Utf8.encode (xs.flatMap fun x => ',' :: write x) ++ closing :: rest) := by
  cases xs with
  | nil =>
    obtain rfl | rfl := bracket
    all_goals exact ends_cons (by decide) (by decide) (by decide) rest
  | cons x xs =>
    rw [List.flatMap_cons, List.cons_append, encode_cons (by decide)]
    exact ends_cons (by decide) (by decide) (by decide) _

section
variable {read : Reader Json}

theorem items_later {xs : List Json} (each : ∀ x ∈ xs, ReadsBack read x) {bound : Nat}
    (enough : xs.length < bound) (rest : List UInt8) :
    items read bound false
        (Utf8.encode (xs.flatMap fun x => ',' :: x.write) ++ ascii ']' :: rest) =
      .ok (xs, rest) := by
  induction xs generalizing bound with
  | nil =>
    obtain ⟨bound, rfl⟩ := Nat.exists_eq_succ_of_ne_zero (Nat.ne_of_gt enough)
    rfl
  | cons x xs ih =>
    obtain ⟨bound, rfl⟩ := Nat.exists_eq_succ_of_ne_zero (Nat.ne_of_gt (Nat.zero_lt_of_lt enough))
    obtain ⟨first, later⟩ := List.forall_mem_cons.mp each
    have follows := ih later (Nat.lt_of_succ_lt_succ enough)
    have ends := ends_separated Json.write xs (.inl rfl) rest
    rw [List.flatMap_cons, List.cons_append, encode_cons (by decide), Utf8.encode_append,
      List.cons_append, List.append_assoc]
    generalize Utf8.encode (xs.flatMap fun x => ',' :: x.write) ++ ascii ']' :: rest = after at *
    obtain ⟨tail, next⟩ := nextItem_comma (first.begins.append after)
    rw [items, next]
    simp only [first.gives after ends, follows]

theorem items_written {xs : List Json} (each : ∀ x ∈ xs, ReadsBack read x) (rest : List UInt8) :
    items read ((Utf8.encode (writeItems xs) ++ ascii ']' :: rest).length + 1) true
        (Utf8.encode (writeItems xs) ++ ascii ']' :: rest) =
      .ok (xs, rest) := by
  cases xs with
  | nil => rfl
  | cons x xs =>
    obtain ⟨first, later⟩ := List.forall_mem_cons.mp each
    have ends := ends_separated Json.write xs (.inl rfl) rest
    have long := length_le_length_encode_flatMap Json.write xs
    rw [writeItems_cons, Utf8.encode_append, List.append_assoc]
    obtain ⟨tail, next⟩ := nextItem_first (first.begins.append
      (Utf8.encode (xs.flatMap fun x => ',' :: x.write) ++ ascii ']' :: rest))
    rw [items, next]
    simp only [first.gives _ ends]
    rw [items_later later _ rest]
    simp only [List.length_append, List.length_cons]
    omega

/-- A key is read from behind its opening quote, up to the colon before the value. -/
theorem key_written (m : String × Json) (after : List UInt8) :
    ∃ start, Utf8.encode (writeMember m) ++ after = ascii '"' :: start ∧
      string start = .ok (m.1, ascii ':' :: (Utf8.encode m.2.write ++ after)) := by
  refine ⟨Utf8.encode (m.1.toList.flatMap writeChar ++ ['"']) ++
    (ascii ':' :: (Utf8.encode m.2.write ++ after)), ?_, string_written _ _⟩
  rw [writeMember, writeString, List.cons_append, encode_cons (by decide), Utf8.encode_append,
    encode_cons (by decide), List.cons_append, List.append_assoc, List.cons_append]

/-- A member is read from behind the opening quote of its key. -/
theorem member_written {m : String × Json} (readsBack : ReadsBack read m.2) {after : List UInt8}
    (ends : Ends after) :
    ∃ start, Utf8.encode (writeMember m) ++ after = ascii '"' :: start ∧
      ∀ {α : Type} (f : String × Json → List UInt8 → Except Fault α),
        (do
          let (key, rest) ← string start
          let rest ← colon rest
          let (x, rest) ← read rest
          f (key, x) rest) = f m after := by
  obtain ⟨start, shape, named⟩ := key_written m after
  refine ⟨start, shape, fun f => ?_⟩
  rw [named]
  change (do
    let (x, rest) ← read (Utf8.encode m.2.write ++ after)
    f (m.1, x) rest) = f m after
  rw [readsBack.gives after ends]
  rfl

theorem members_later {ms : List (String × Json)} (each : ∀ m ∈ ms, ReadsBack read m.2)
    {bound : Nat} (enough : ms.length < bound) (rest : List UInt8) :
    members read bound false
        (Utf8.encode (ms.flatMap fun m => ',' :: writeMember m) ++ ascii '\x7d' :: rest) =
      .ok (ms, rest) := by
  induction ms generalizing bound with
  | nil =>
    obtain ⟨bound, rfl⟩ := Nat.exists_eq_succ_of_ne_zero (Nat.ne_of_gt enough)
    rfl
  | cons m ms ih =>
    obtain ⟨bound, rfl⟩ := Nat.exists_eq_succ_of_ne_zero (Nat.ne_of_gt (Nat.zero_lt_of_lt enough))
    obtain ⟨first, later⟩ := List.forall_mem_cons.mp each
    have follows := ih later (Nat.lt_of_succ_lt_succ enough)
    have ends := ends_separated writeMember ms (.inr rfl) rest
    obtain ⟨start, shape, given⟩ := member_written first ends
    have next : nextKey false (ascii ',' :: ascii '"' :: start) = .ok (some start, start) := rfl
    rw [List.flatMap_cons, List.cons_append, encode_cons (by decide), Utf8.encode_append,
      List.cons_append, List.append_assoc, shape, members, next]
    refine (given fun entry rest => do
      let more ← members read bound false rest
      .ok (entry :: more.1, more.2)).trans ?_
    rw [follows]
    rfl

theorem members_written {ms : List (String × Json)} (each : ∀ m ∈ ms, ReadsBack read m.2)
    (rest : List UInt8) :
    members read ((Utf8.encode (writeMembers ms) ++ ascii '\x7d' :: rest).length + 1) true
        (Utf8.encode (writeMembers ms) ++ ascii '\x7d' :: rest) =
      .ok (ms, rest) := by
  cases ms with
  | nil => rfl
  | cons m ms =>
    obtain ⟨first, later⟩ := List.forall_mem_cons.mp each
    have ends := ends_separated writeMember ms (.inr rfl) rest
    have long := length_le_length_encode_flatMap writeMember ms
    obtain ⟨start, shape, given⟩ := member_written first ends
    have next : nextKey true (ascii '"' :: start) = .ok (some start, start) := rfl
    rw [writeMembers_cons, Utf8.encode_append, List.append_assoc]
    generalize bound : (Utf8.encode (writeMember m) ++ _).length = length
    rw [shape, members, next]
    refine (given fun entry rest => do
      let more ← members read length false rest
      .ok (entry :: more.1, more.2)).trans ?_
    rw [members_later later _ rest]
    · rfl
    · rw [← bound]
      simp only [List.length_append, List.length_cons]
      omega

end

end Reader

/-! ### Documents -/

/-- Documents that are read back from their text, with containers at most so deep: no floats, integers
of 64 bits, signed for a negative one, and no key twice in an object. -/
inductive Exact : (depth : Nat) → Json → Prop
  | null {depth : Nat} : Exact depth .null
  | bool {depth : Nat} (b : Bool) : Exact depth (.bool b)
  | integer {depth : Nat} {n : Int} : -Nat.pow 2 63 ≤ n → n < Nat.pow 2 64 → Exact depth (.integer n)
  | string {depth : Nat} (s : String) : Exact depth (.string s)
  | array {depth : Nat} {items : List Json} : (∀ item ∈ items, Exact depth item) →
      Exact (depth + 1) (.array items)
  | object {depth : Nat} {members : List (String × Json)} : Entries.Distinct members →
      (∀ member ∈ members, Exact depth member.2) → Exact (depth + 1) (.object members)

namespace Reader

theorem begins_ofInt (n : Int) : Begins (Utf8.encode (Decimal.ofInt n)) := by
  cases n with
  | ofNat n =>
    obtain ⟨b, tail, digit, shape⟩ := exists_digit_ofNat n
    exact ⟨b, tail, shape, not_isBlank_of_isDigit digit, ne_of_isDigit digit (by decide)⟩
  | negSucc n => exact begins_encode (by decide) (by decide) (by decide) _

/-- A document is read back by a reader that goes as deep as its containers. -/
theorem readsBack_value {depth : Nat} {document : Json} (exact : document.Exact depth) :
    ReadsBack (value depth) document := by
  have scalar : ∀ depth, ∃ container, value depth = valueWith container := by
    intro depth
    cases depth <;> exact ⟨_, rfl⟩
  induction exact with
  | @null depth =>
    obtain ⟨container, same⟩ := scalar depth
    refine ⟨begins_encode (by decide) (by decide) (by decide) _, fun rest _ => ?_⟩
    rw [same]
    exact valueWith_null container rest
  | @bool depth b =>
    obtain ⟨container, same⟩ := scalar depth
    cases b with
    | true =>
      refine ⟨begins_encode (by decide) (by decide) (by decide) _, fun rest _ => ?_⟩
      rw [same]
      exact valueWith_true container rest
    | false =>
      refine ⟨begins_encode (by decide) (by decide) (by decide) _, fun rest _ => ?_⟩
      rw [same]
      exact valueWith_false container rest
  | @integer depth n least most =>
    obtain ⟨container, same⟩ := scalar depth
    refine ⟨begins_ofInt n, fun rest ends => ?_⟩
    rw [same]
    exact valueWith_integer container least most ends
  | @string depth s =>
    obtain ⟨container, same⟩ := scalar depth
    refine ⟨begins_encode (by decide) (by decide) (by decide) _, fun rest _ => ?_⟩
    rw [same]
    exact valueWith_string container s rest
  | @array depth items _ ih =>
    refine ⟨begins_encode (by decide) (by decide) (by decide) _, fun rest _ => ?_⟩
    rw [write, encode_cons (by decide), Utf8.encode_append, encode_cons (by decide),
      List.cons_append, List.append_assoc, value, valueWith_container _ (.inl rfl), if_pos rfl]
    exact congrArg (Except.map _) (items_written ih rest)
  | @object depth members distinct _ ih =>
    refine ⟨begins_encode (by decide) (by decide) (by decide) _, fun rest _ => ?_⟩
    rw [write, encode_cons (by decide), Utf8.encode_append, encode_cons (by decide),
      List.cons_append, List.append_assoc, value, valueWith_container _ (.inr rfl),
      if_neg (by decide)]
    refine (congrArg (Except.map _) (members_written ih rest)).trans ?_
    simp only [Except.map, Entries.ofPairs_of_distinct distinct]

end Reader

/-- The text of a document spells this document. -/
theorem ofText_toText {document : Json} (exact : document.Exact maxDepth) :
    ofText document.toText = .ok document := by
  have given := (Reader.readsBack_value exact).gives [] Reader.ends_nil
  rw [List.append_nil] at given
  rw [ofText, toText, utf8, String.toList_ofList, read, readAll, given]
  rfl

end EnvTemplate.Json
