import EnvTemplate.Proofs.Entries
import EnvTemplate.Proofs.Json.Writing
import EnvTemplate.Proofs.Text.Cut
import EnvTemplate.Settings.Load
/-! Settings in a JSON file. What is written for settings is read as these settings again: the reader of
their fields agrees with the reader of documents where a document is an object of texts, and the rest
follows the two fields. The override variable changes the limit and nothing else. -/
namespace EnvTemplate.Settings

open Json (writeString writeMembers)
open Json.Reader

section
variable {rest : List UInt8}

/-! ### The fields -/

theorem start_cons {b : UInt8} (visible : isBlank b = false) (rest : List UInt8) :
    start (b :: rest) = .ok (b, rest) := by
  rw [start, skipBlanks_cons visible]

/-- A written limit is read up to what follows it. -/
theorem limit_written {n : Nat} (fits : n < Nat.pow 2 64) (ends : Ends rest) :
    limit (Utf8.encode (Decimal.ofNat n) ++ rest) = .ok (n, rest) := by
  have read := number_written false (Nat.le_sub_one_of_lt fits) ends
  obtain ⟨b, tail, digit, shape⟩ := exists_digit_ofNat n
  rw [shape, List.cons_append] at read ⊢
  rw [limit, start_cons (not_isBlank_of_isDigit digit)]
  have other : b ≠ ascii '-' := ne_of_isDigit digit (by decide)
  simp only [bind, Except.bind, other, digit, if_true, if_false, read]
  rfl

theorem text_written (s : String) (rest : List UInt8) :
    text (Utf8.encode (writeString s) ++ rest) = .ok (s, rest) := by
  rw [writeString, encode_cons (by decide), List.cons_append, text, start_cons (by decide)]
  exact string_written s rest

/-! ### Objects of texts -/

def textEntry (entry : String × String) : String × Json :=
  (entry.1, .string entry.2)

def textDocument : Json.Reader Json := fun input =>
  (text input).map fun (s, rest) => (.string s, rest)

/-- Members that are texts are members of a document. -/
theorem members_textDocument (bound : Nat) (first : Bool) (input : List UInt8) :
    members textDocument bound first input =
      (textMembers bound first input).map fun (entries, rest) => (entries.map textEntry, rest) := by
  induction bound generalizing first input with
  | zero => rfl
  | succ bound ih =>
    -- both readers go the same way, and only the value is another one
    rw [members, textMembers]
    cases next : nextKey first input with
    | error fault => rfl
    | ok pair =>
      obtain ⟨key, more⟩ := pair
      cases key with
      | none => rfl
      | some key =>
        cases named : string key with
        | error fault => simp [named, bind, Except.bind, Except.map]
        | ok pair =>
          obtain ⟨name, afterName⟩ := pair
          cases separated : colon afterName with
          | error fault => simp [named, separated, bind, Except.bind, Except.map]
          | ok afterColon =>
            cases given : text afterColon with
            | error fault =>
              simp [named, separated, textDocument, given, bind, Except.bind, Except.map]
            | ok pair =>
              obtain ⟨value, afterValue⟩ := pair
              simp only [named, separated, textDocument, given, ih, bind, Except.bind, Except.map]
              cases textMembers bound false afterValue <;> rfl

theorem textEntry_injective : Function.Injective textEntry := by
  rintro ⟨a, v⟩ ⟨b, w⟩ same
  simpa [textEntry] using same

theorem readsBack_textDocument (s : String) : ReadsBack textDocument (.string s) where
  begins := begins_encode (by decide) (by decide) (by decide) _
  gives rest _ := by rw [textDocument, Json.write, text_written]; rfl

theorem textMembers_written (entries : List (String × String)) (rest : List UInt8) :
    textMembers ((Utf8.encode (writeMembers (entries.map textEntry)) ++
        ascii '\x7d' :: rest).length + 1) true
        (Utf8.encode (writeMembers (entries.map textEntry)) ++ ascii '\x7d' :: rest) =
      .ok (entries, rest) := by
  have each : ∀ m ∈ entries.map textEntry, ReadsBack textDocument m.2 := by
    intro m found
    obtain ⟨entry, _, rfl⟩ := List.mem_map.mp found
    exact readsBack_textDocument entry.2
  have read := members_written each rest
  rw [members_textDocument] at read
  generalize textMembers _ true _ = result at read ⊢
  cases result with
  | error fault => contradiction
  | ok pair =>
    obtain ⟨same, behind⟩ := Prod.mk.inj (Except.ok.inj read)
    rw [← List.map_injective_iff.mpr textEntry_injective same, ← behind]

/-- Entries without a name that comes twice are read as they are written. -/
theorem textMap_written {entries : Entries String} (distinct : Entries.Distinct entries)
    (rest : List UInt8) :
    textMap (Utf8.encode (Json.write (.object (entries.map textEntry))) ++ rest) =
      .ok (entries, rest) := by
  rw [Json.write, encode_cons (by decide), Utf8.encode_append, encode_cons (by decide),
    List.cons_append, List.append_assoc, List.cons_append, textMap, start_cons (by decide)]
  dsimp only [bind, Except.bind]
  have read := textMembers_written entries (Utf8.encode [] ++ rest)
  rw [if_pos rfl, read]
  exact congrArg (fun m => Except.ok (m, rest)) (Entries.ofPairs_of_distinct distinct)

/-! ### The two fields in turn -/

section
variable {bound : Nat} {first : Bool} {read : Fields}
  {input key more afterName afterColon later : List UInt8}
  (next : nextKey first input = .ok (some key, more))
  (separated : colon afterName = .ok afterColon)
include next separated

theorem fieldMembers_depth {n : Nat} (named : string key = .ok (depthField, afterName))
    (fresh : read.depth = none) (given : limit afterColon = .ok (n, later)) :
    fieldMembers (bound + 1) first read input =
      fieldMembers bound false { read with depth := some n } later := by
  simp only [fieldMembers, next, named, fresh, separated, given, bind, Except.bind, if_true,
    Option.isSome_none, Bool.false_eq_true, if_false]

theorem fieldMembers_variables {m : Entries String}
    (named : string key = .ok (variablesField, afterName)) (fresh : read.seeds = none)
    (given : textMap afterColon = .ok (m, later)) :
    fieldMembers (bound + 1) first read input =
      fieldMembers bound false { read with seeds := some m } later := by
  have other : variablesField ≠ depthField := by decide
  simp only [fieldMembers, next, named, fresh, separated, given, bind, Except.bind, if_true,
    Option.isSome_none, Bool.false_eq_true, if_false, other]

end

end

/-- The bytes that are written for settings, field by field. -/
theorem encode_write_toJson (s : Settings) :
    Utf8.encode s.toJson.write =
      ascii '\x7b' :: (Utf8.encode (writeMember (depthField, .integer s.maxNestingDepth)) ++
        ascii ',' :: (Utf8.encode (writeMember
          (variablesField, .object (s.seedVariables.map textEntry))) ++ [ascii '\x7d'])) := by
  rw [toJson, Json.write, writeMembers_cons, List.flatMap_singleton, encode_cons (by decide),
    Utf8.encode_append, Utf8.encode_append, encode_cons (by decide), List.append_assoc]
  rfl

theorem fields_toJson {s : Settings} (fits : s.maxNestingDepth < Nat.pow 2 64)
    (distinct : Entries.Distinct s.seedVariables) :
    fields (Utf8.encode s.toJson.write) = .ok (s, []) := by
  obtain ⟨second, secondShape, secondName⟩ := key_written
    (variablesField, .object (s.seedVariables.map textEntry)) [ascii '\x7d']
  obtain ⟨front, shape, name⟩ := key_written (depthField, .integer s.maxNestingDepth)
    (ascii ',' :: ascii '"' :: second)
  have ends : Ends (ascii ',' :: ascii '"' :: second) :=
    ends_cons (by decide) (by decide) (by decide) _
  -- the bound counts the bytes, and there are more of them than members
  have long : front ≠ [] := by
    rintro rfl
    contradiction
  obtain ⟨b, tail, rfl⟩ := List.exists_cons_of_ne_nil long
  have key : nextKey true (ascii '"' :: b :: tail) = .ok (some (b :: tail), b :: tail) := rfl
  have secondKey : nextKey false (ascii ',' :: ascii '"' :: second) = .ok (some second, second) := rfl
  rw [encode_write_toJson, secondShape, shape, fields, start_cons (by decide)]
  dsimp only [bind, Except.bind]
  rw [if_pos rfl, List.length_cons, List.length_cons,
    fieldMembers_depth key rfl name rfl (limit_written fits ends),
    fieldMembers_variables secondKey rfl secondName rfl (textMap_written distinct [ascii '\x7d'])]
  rfl

/-- Settings with a limit of 64 bits are read back from their document. -/
theorem ofJsonBytes_toText {s : Settings} (fits : s.maxNestingDepth < Nat.pow 2 64)
    (distinct : Entries.Distinct s.seedVariables) :
    ofJsonBytes (utf8 s.toJson.toText) = .ok s := by
  rw [ofJsonBytes, Json.toText, utf8, String.toList_ofList, Json.readAll, fields_toJson fits distinct]
  rfl

theorem load_saved {s : Settings} (fits : s.maxNestingDepth < Nat.pow 2 64)
    (distinct : Entries.Distinct s.seedVariables) {tree : FileTree} {path : String}
    (named : DocumentFormat.ofPath? path = some .json)
    (saved : tree.read path = .ok (utf8 s.toJson.toText)) : load tree path = .ok s := by
  have there : tree.pathExists path = true := by
    rw [FileTree.pathExists]
    cases located : tree.locate path with
    | ok place => rfl
    | error error =>
      rw [FileTree.read, located] at saved
      contradiction
  rw [load, there, named, saved]
  simp only [Bool.not_true, Bool.false_eq_true, if_false, ofBytes, ofJsonBytes_toText fits distinct]
  rfl

/-! ### The override -/

/-- The numerals of a limit: digits after an optional plus sign. -/
inductive LimitNumeral : List Char → Nat → Prop
  | unsigned {digits : List Char} : digits ≠ [] → (∀ c ∈ digits, c.isDigit = true) →
      LimitNumeral digits (Nat.ofDigitChars 10 digits 0)
  | plus {digits : List Char} : digits ≠ [] → (∀ c ∈ digits, c.isDigit = true) →
      LimitNumeral ('+' :: digits) (Nat.ofDigitChars 10 digits 0)

/-- What a text spells as a limit, blanks around it aside. -/
def SpellsLimit (text : String) (n : Nat) : Prop :=
  ∃ core, Text.IsStripped Unicode.isWhiteSpace text.toList core ∧ LimitNumeral core n

theorem toNat?_limit_iff {core : List Char} {n : Nat} :
    Decimal.toNat? (if core.head? = some '+' then core.drop 1 else core) = some n ↔
      LimitNumeral core n := by
  by_cases plus : core.head? = some '+'
  · obtain ⟨digits, rfl⟩ := List.head?_eq_some_iff.mp plus
    rw [if_pos plus, List.drop_one, List.tail_cons, Decimal.toNat?_eq_some_iff]
    constructor
    · rintro ⟨⟨nonempty, all⟩, rfl⟩
      exact .plus nonempty all
    · intro numeral
      cases numeral with
      | unsigned _ all => exact absurd (all '+' List.mem_cons_self) (by decide)
      | plus nonempty all => exact ⟨⟨nonempty, all⟩, rfl⟩
  · rw [if_neg plus, Decimal.toNat?_eq_some_iff]
    constructor
    · rintro ⟨⟨nonempty, all⟩, rfl⟩
      exact .unsigned nonempty all
    · intro numeral
      cases numeral with
      | unsigned nonempty all => exact ⟨⟨nonempty, all⟩, rfl⟩
      | plus _ _ => exact absurd rfl plus

theorem spellsLimit_iff {text : String} {n : Nat} :
    SpellsLimit text n ↔ LimitNumeral (Text.strip Unicode.isWhiteSpace text.toList) n := by
  constructor
  · rintro ⟨core, stripped, numeral⟩
    rwa [Text.strip_eq_of_isStripped stripped]
  · exact fun numeral => ⟨_, Text.isStripped_strip _ _, numeral⟩

theorem limitOfText?_eq_some_iff {text : String} {n : Nat} :
    limitOfText? text = some n ↔ SpellsLimit text n ∧ n < Nat.pow 2 64 := by
  rw [spellsLimit_iff, ← toNat?_limit_iff, limitOfText?]
  simp only [Option.bind_eq_some_iff, Option.ite_none_right_eq_some, Option.some.injEq]
  constructor
  · rintro ⟨m, spelled, fits, rfl⟩
    exact ⟨spelled, fits⟩
  · rintro ⟨spelled, fits⟩
    exact ⟨n, spelled, fits, rfl⟩

/-- Settings come back from a JSON file that they are written to, their variables in order. The
override variable, if it is defined, replaces their limit and nothing else, or it is refused with its
whole text. -/
theorem loadWithOverride_saved {s : Settings} (fits : s.maxNestingDepth < Nat.pow 2 64)
    (distinct : Entries.Distinct s.seedVariables) {tree : FileTree} {path : String}
    (named : DocumentFormat.ofPath? path = some .json)
    (saved : tree.read path = .ok (utf8 s.toJson.toText))
    (lookupVariable? : String → Option String) :
    load tree path = .ok s ∧
    (lookupVariable? overrideVariable = none →
      loadWithOverride tree path lookupVariable? = .ok s) ∧
    ∀ text, lookupVariable? overrideVariable = some text →
      (∀ n < Nat.pow 2 64, SpellsLimit text n →
        loadWithOverride tree path lookupVariable? = .ok { s with maxNestingDepth := n }) ∧
      ((∀ n < Nat.pow 2 64, ¬ SpellsLimit text n) →
        loadWithOverride tree path lookupVariable? =
          .error (.invalidOverride overrideVariable text)) := by
  have loaded := load_saved fits distinct named saved
  have overridden : loadWithOverride tree path lookupVariable? = s.override lookupVariable? := by
    rw [loadWithOverride, loaded]
    rfl
  refine ⟨loaded, fun undefined => ?_, fun text defined => ⟨fun n small spelled => ?_, fun no => ?_⟩⟩
  · rw [overridden, override, undefined]
  · have limit := limitOfText?_eq_some_iff.mpr ⟨spelled, small⟩
    simp only [overridden, override, defined, limit]
  · have limit : limitOfText? text = none := by
      refine Option.eq_none_iff_forall_not_mem.mpr fun n given => ?_
      obtain ⟨spelled, small⟩ := limitOfText?_eq_some_iff.mp given
      exact no n small spelled
    simp only [overridden, override, defined, limit]

/-- The largest limit, and variables whose names and texts need escapes. -/
def quotedSettings : Settings where
  maxNestingDepth := 18446744073709551615
  seedVariables := [("z", "\"\\\n\x00"), ("", "ä😀"), ("a b", "")]

def settingsFile (content : List UInt8) : FileTree where
  files := [(["srv", "s.JSON"], content)]
  current := ["srv"]

theorem loadWithOverride_quotedSettings :
    let tree := settingsFile (utf8 quotedSettings.toJson.toText)
    load tree "s.JSON" = .ok quotedSettings ∧
    loadWithOverride tree "/srv/./s.JSON" (fun _ => none) = .ok quotedSettings ∧
    loadWithOverride tree "../srv/s.JSON" (fun _ => some "\u2003+007\n") =
      .ok { quotedSettings with maxNestingDepth := 7 } ∧
    loadWithOverride tree "s.JSON" (fun _ => some " 1_0 ") =
      .error (.invalidOverride overrideVariable " 1_0 ") := by
  intro tree
  -- the content stays a variable: as a text it would be written out
  have read : ∀ content, (settingsFile content).read "s.JSON" = .ok content ∧
      (settingsFile content).read "/srv/./s.JSON" = .ok content ∧
      (settingsFile content).read "../srv/s.JSON" = .ok content := fun _ => ⟨rfl, rfl, rfl⟩
  obtain ⟨here, rooted, above⟩ := read (utf8 quotedSettings.toJson.toText)
  have given {path : String} (named : DocumentFormat.ofPath? path = some .json)
      (saved : tree.read path = _) (lookupVariable? : String → Option String) :=
    loadWithOverride_saved (s := quotedSettings) (by decide) (by decide) named saved lookupVariable?
  have seven : limitOfText? "\u2003+007\n" = some 7 := by decide
  have refused : limitOfText? " 1_0 " = none := by decide
  obtain ⟨_, kept, _⟩ := given (by decide) rooted fun _ => none
  obtain ⟨_, _, lowered⟩ := given (by decide) above fun _ => some "\u2003+007\n"
  obtain ⟨loaded, _, rejected⟩ := given (by decide) here fun _ => some " 1_0 "
  obtain ⟨spelled, small⟩ := limitOfText?_eq_some_iff.mp seven
  refine ⟨loaded, kept rfl, (lowered _ rfl).1 7 small spelled, (rejected _ rfl).2 ?_⟩
  intro n small spelled
  have limit := limitOfText?_eq_some_iff.mpr ⟨spelled, small⟩
  exact Option.some_ne_none n (limit.symm.trans refused)

end EnvTemplate.Settings
