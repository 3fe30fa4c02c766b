import EnvTemplate.Codec.Csv
import Mathlib.Data.List.TakeWhile
/-! Records written field by field. Blanks leave the reader at the start of a field, and a quote there
takes it between quotes until a single quote takes it out again. Behind a written field it never
stands between quotes, so the comma that follows ends this field, and no other comma does. -/
namespace EnvTemplate.Csv

def isBlank (c : Char) : Bool :=
  c == ' ' || c == '\t'

/-- A text as it stands between quotes. -/
def doubled (text : List Char) : List Char :=
  text.flatMap fun c => if c = '"' then ['"', '"'] else [c]

/-- A field as it stands in a record. -/
inductive RawField
  /-- A text without commas that shows no quote before any other character but blanks. -/
  | bare (text : List Char) (single : ',' ∉ text)
      (unquoted : (text.dropWhile isBlank).head? ≠ some '"')
  /-- Any text between quotes, with blanks before them, and behind them a tail without commas that
  begins with no quote. -/
  | quoted (blanks text tail : List Char) (blank : ∀ c ∈ blanks, isBlank c = true)
      (single : ',' ∉ tail) (closed : tail.head? ≠ some '"')

namespace RawField

def written : RawField → List Char
  | bare text _ _ => text
  | quoted blanks text tail _ _ _ => blanks ++ '"' :: (doubled text ++ '"' :: tail)

def text : RawField → List Char
  | bare text _ _ => text
  | quoted _ text tail _ _ _ => text ++ tail

end RawField

/-! ### One character -/

section
variable {place : Place} {c : Char} (field rest : List Char)

attribute [local simp] fieldsFrom

theorem fieldsFrom_comma (outside : place ≠ .quoted) :
    fieldsFrom place field (',' :: rest) = field.reverse :: fieldsFrom .start [] rest := by
  rw [fieldsFrom.eq_4 _ _ _ _ outside, if_pos rfl]

theorem fieldsFrom_blank (blank : isBlank c = true) :
    fieldsFrom .start field (c :: rest) = fieldsFrom .start (c :: field) rest := by
  have choice : c = ' ' ∨ c = '\t' := by simpa [isBlank] using blank
  obtain rfl | rfl := choice <;> simp

/-- A quote at the start drops the blanks before it. -/
theorem fieldsFrom_opening :
    fieldsFrom .start field ('"' :: rest) = fieldsFrom .quoted [] rest := by
  simp

theorem fieldsFrom_start (noComma : c ≠ ',') (noQuote : c ≠ '"') (noBlank : isBlank c = false) :
    fieldsFrom .start field (c :: rest) = fieldsFrom .bare (c :: field) rest := by
  have noChoice : ¬ (c = ' ' ∨ c = '\t') := by simpa [isBlank] using noBlank
  simp [noComma, noQuote, noChoice]

theorem fieldsFrom_bare_cons (noComma : c ≠ ',') :
    fieldsFrom .bare field (c :: rest) = fieldsFrom .bare (c :: field) rest := by
  simp [noComma]

theorem fieldsFrom_doubled_quote :
    fieldsFrom .quoted field ('"' :: '"' :: rest) = fieldsFrom .quoted ('"' :: field) rest := by
  rw [fieldsFrom.eq_2, if_pos rfl]

theorem fieldsFrom_closing (single : rest.head? ≠ some '"') :
    fieldsFrom .quoted field ('"' :: rest) = fieldsFrom .bare field rest := by
  have followed : ∀ behind, rest = '"' :: behind → False := by
    rintro behind rfl
    exact single rfl
  rw [fieldsFrom.eq_3 _ _ _ followed, if_pos rfl]

theorem fieldsFrom_quoted_cons (noQuote : c ≠ '"') :
    fieldsFrom .quoted field (c :: rest) = fieldsFrom .quoted (c :: field) rest := by
  rw [fieldsFrom.eq_def]
  simp [noQuote]

end

/-! ### A part of a field -/

section
variable {field : List Char} (rest : List Char)

theorem fieldsFrom_blanks {blanks : List Char} (blank : ∀ c ∈ blanks, isBlank c = true) :
    fieldsFrom .start field (blanks ++ rest) = fieldsFrom .start (blanks.reverse ++ field) rest := by
  induction blanks generalizing field with
  | nil => rfl
  | cons c blanks ih =>
    obtain ⟨first, blank⟩ := List.forall_mem_cons.mp blank
    rw [List.cons_append, fieldsFrom_blank _ _ first, ih blank, List.reverse_cons,
      List.append_assoc, List.singleton_append]

/-- Outside of quotes all but commas is kept. -/
theorem fieldsFrom_bare {text : List Char} (single : ',' ∉ text) :
    fieldsFrom .bare field (text ++ rest) = fieldsFrom .bare (text.reverse ++ field) rest := by
  induction text generalizing field with
  | nil => rfl
  | cons c text ih =>
    obtain ⟨noComma, single⟩ : ',' ≠ c ∧ ',' ∉ text := by simpa using single
    rw [List.cons_append, fieldsFrom_bare_cons _ _ (Ne.symm noComma), ih single,
      List.reverse_cons, List.append_assoc, List.singleton_append]

/-- Between quotes every text is kept, commas included. -/
theorem fieldsFrom_doubled (text : List Char) :
    fieldsFrom .quoted field (doubled text ++ rest) =
      fieldsFrom .quoted (text.reverse ++ field) rest := by
  induction text generalizing field with
  | nil => rfl
  | cons c text ih =>
    have tail : doubled (c :: text) = (if c = '"' then ['"', '"'] else [c]) ++ doubled text := rfl
    rw [tail, List.append_assoc, List.reverse_cons, List.append_assoc, List.singleton_append]
    split
    · rename_i quote
      rw [quote, List.cons_append, List.cons_append, List.nil_append, fieldsFrom_doubled_quote, ih]
    · rename_i other
      rw [List.singleton_append, fieldsFrom_quoted_cons _ _ other, ih]

end

/-! ### Fields -/

/-- Behind a written field the reader has its text and does not stand between quotes. -/
theorem fieldsFrom_written (f : RawField) :
    ∃ place ≠ .quoted, ∀ rest, rest.head? ≠ some '"' →
      fieldsFrom .start [] (f.written ++ rest) = fieldsFrom place f.text.reverse rest := by
  cases f with
  | bare text single unquoted =>
    obtain ⟨blanks, behind, rfl, blank, bare⟩ : ∃ blanks behind, text = blanks ++ behind ∧
        (∀ c ∈ blanks, isBlank c = true) ∧ behind = text.dropWhile isBlank :=
      ⟨text.takeWhile isBlank, text.dropWhile isBlank, List.takeWhile_append_dropWhile.symm,
        fun c => List.mem_takeWhile_imp, rfl⟩
    rw [← bare] at unquoted
    cases behind with
    | nil =>
      -- blanks alone leave the reader at the start
      refine ⟨.start, by decide, fun rest _ => ?_⟩
      simpa [RawField.written, RawField.text] using @fieldsFrom_blanks [] rest blanks blank
    | cons c behind =>
      have noBlank : isBlank c = false := by
        have boundary := List.head?_dropWhile_not isBlank (blanks ++ c :: behind)
        rw [← bare] at boundary
        simpa using boundary
      have noQuote : c ≠ '"' := by simpa using unquoted
      obtain ⟨_, noComma, single⟩ : ',' ∉ blanks ∧ ',' ≠ c ∧ ',' ∉ behind := by simpa using single
      refine ⟨.bare, by decide, fun rest _ => ?_⟩
      have start := fieldsFrom_start (blanks.reverse ++ []) (behind ++ rest) (Ne.symm noComma)
        noQuote noBlank
      rw [RawField.written, List.append_assoc, fieldsFrom_blanks _ blank, List.cons_append, start,
        fieldsFrom_bare rest single]
      simp [RawField.text]
  | quoted blanks text tail blank single closed =>
    refine ⟨.bare, by decide, fun rest follows => ?_⟩
    have behind : (tail ++ rest).head? ≠ some '"' := by
      cases tail with
      | nil => exact follows
      | cons c tail => exact closed
    rw [RawField.written, List.append_assoc, fieldsFrom_blanks _ blank, List.cons_append,
      fieldsFrom_opening, List.append_assoc, fieldsFrom_doubled, List.cons_append,
      fieldsFrom_closing _ _ behind, fieldsFrom_bare rest single]
    simp [RawField.text]

/-- Reading a record gives the texts of the fields that it is written from, one for each. -/
theorem fields_written {record : List RawField} (nonempty : record ≠ []) :
    fields (List.intercalate [','] (record.map RawField.written)) = record.map RawField.text := by
  induction record with
  | nil => contradiction
  | cons f record ih =>
    obtain ⟨place, outside, read⟩ := fieldsFrom_written f
    cases record with
    | nil =>
      have last := read [] (by simp)
      rw [List.append_nil] at last
      rw [List.map_singleton, List.intercalate_singleton, fields, last, fieldsFrom,
        List.reverse_reverse, List.map_singleton]
    | cons next record =>
      have tail := ih (List.cons_ne_nil next record)
      rw [fields] at tail
      rw [List.map_cons, List.map_cons, List.intercalate_cons_cons, ← List.map_cons,
        List.append_assoc, List.singleton_append, fields, read _ (by simp),
        fieldsFrom_comma _ _ outside, tail, List.reverse_reverse, ← List.map_cons]

/-- A comma and a quote between quotes, a quote behind them, an empty field at each end of a bare one
that shows a quote, and blanks alone. -/
theorem fields_uneven :
    fields "\t \"a,\"\"b\"t\",, x\"y,\"\",  ".toList =
      ["a,\"bt\"".toList, [], " x\"y".toList, [], "  ".toList] :=
  @fields_written
    [.quoted "\t ".toList "a,\"b".toList "t\"".toList (by simp [isBlank]) (by decide) (by decide),
      .bare [] (by decide) (by decide), .bare " x\"y".toList (by decide) (by decide),
      .quoted [] [] [] (by simp) (by decide) (by decide),
      .bare "  ".toList (by decide) (by decide)]
    (by simp)

end EnvTemplate.Csv
