import EnvTemplate.Proofs.Query.Appending
import EnvTemplate.Proofs.Value.Integer
import EnvTemplate.Resolve
import EnvTemplate.Tables
/-! Looking up a key in a sequence. The keys that find an item are the numerals of the positions, so
a sequence and the mapping that it becomes answer every key alike. -/
namespace EnvTemplate

open Query (asMapping numeral)

theorem Query.numeral_injective {i j : Nat} (same : numeral i = numeral j) : i = j := by
  have digits : Decimal.ofNat i = Decimal.ofNat j := String.ofList_injective same
  calc i
      = Nat.ofDigitChars 10 (Decimal.ofNat i) 0 := Nat.ofDigitChars_ten_toDigits.symm
    _ = Nat.ofDigitChars 10 (Decimal.ofNat j) 0 := by rw [digits]
    _ = j := Nat.ofDigitChars_ten_toDigits

/-- A key is a position exactly if it is the numeral of this position, and 64 bits hold it. -/
theorem sequenceIndex?_eq_some_iff {key : String} {i : Nat} :
    sequenceIndex? key = some i ↔ key = numeral i ∧ i < 2 ^ 64 := by
  unfold sequenceIndex?
  dsimp only
  constructor
  · intro found
    obtain ⟨canonical, found⟩ := Option.ite_none_right_eq_some.mp found
    obtain ⟨fits, found⟩ := Option.ite_none_right_eq_some.mp found
    obtain rfl := Option.some.inj found
    refine ⟨?_, fits⟩
    rw [numeral, ← (Literal.isCanonical_iff.mp canonical).eq_ofNat, String.ofList_toList]
  · rintro ⟨rfl, fits⟩
    have value : Nat.ofDigitChars 10 (Decimal.ofNat i) 0 = i := Nat.ofDigitChars_ten_toDigits
    rw [numeral, String.toList_ofList, if_pos (Literal.isCanonical_ofNat i), value]
    exact if_pos fits

/-! ### A sequence as a mapping -/

theorem distinct_asMapping_sequence (items : List Value) :
    Entries.Distinct (asMapping (.sequence items)) := by
  refine List.pairwise_iff_getElem.mpr ?_
  intro i j first second order
  simp only [Entries.keys, asMapping, List.getElem_map, List.getElem_mapIdx]
  intro same
  exact Nat.ne_of_lt order (Query.numeral_injective same)

theorem get?_asMapping_sequence {items : List Value} {key : String} {part : Value} :
    Entries.get? (asMapping (.sequence items)) key = some part ↔
      ∃ i, key = numeral i ∧ items[i]? = some part := by
  rw [Entries.get?_eq_some_iff (distinct_asMapping_sequence items), asMapping, List.mem_mapIdx]
  constructor
  · rintro ⟨i, inside, same⟩
    obtain ⟨rfl, rfl⟩ := Prod.mk.inj same
    exact ⟨i, rfl, List.getElem?_eq_getElem inside⟩
  · rintro ⟨i, rfl, found⟩
    obtain ⟨inside, rfl⟩ := List.getElem?_eq_some_iff.mp found
    exact ⟨i, inside, rfl⟩

theorem get?_asMapping_eq_none_iff {items : List Value} {key : String} :
    Entries.get? (asMapping (.sequence items)) key = none ↔ ∀ i < items.length, key ≠ numeral i := by
  rw [Option.eq_none_iff_forall_ne_some]
  constructor
  · rintro absent i inside rfl
    exact absent _ (get?_asMapping_sequence.mpr ⟨i, rfl, List.getElem?_eq_getElem inside⟩)
  · intro other part found
    obtain ⟨i, named, found⟩ := get?_asMapping_sequence.mp found
    obtain ⟨inside, _⟩ := List.getElem?_eq_some_iff.mp found
    exact other i inside named

/-- As long as 64 bits hold every position, a key finds in a sequence what it finds in the mapping. -/
theorem get?_asMapping_eq {items : List Value} (addressable : items.length ≤ 2 ^ 64) (key : String) :
    Entries.get? (asMapping (.sequence items)) key =
      (sequenceIndex? key).bind (items[·]?) := by
  refine Option.ext fun part => ?_
  rw [get?_asMapping_sequence, Option.bind_eq_some_iff]
  refine exists_congr fun i => ?_
  rw [sequenceIndex?_eq_some_iff, and_assoc]
  refine and_congr_right fun _ => ?_
  -- Only the sequence asks for 64 bits; a key of the mapping has them because of the length.
  constructor
  · intro found
    obtain ⟨inside, _⟩ := List.getElem?_eq_some_iff.mp found
    exact ⟨Nat.lt_of_lt_of_le inside addressable, found⟩
  · exact And.right

/-! ### The step -/

/-- The outcome of a look-up in a value. -/
def Step.outcome (key : String) (v : Value) (heap : String) : Option Value → Except Failure Value
  | some part => .ok part
  | none => .error (.reported (.keyNotFound key v.jsonText heap))

section
variable (w : World) (key : String) {heap : String}

theorem World.apply_key_items (items : List Value) :
    w.apply ⟨.key, some key⟩ (.sequence items) heap =
      Step.outcome key (.sequence items) heap ((sequenceIndex? key).bind (items[·]?)) := by
  simp only [apply, Step.index, Option.getD_some]
  cases (sequenceIndex? key).bind (items[·]?) <;> rfl

theorem World.apply_key_entries (entries : Entries Value) :
    w.apply ⟨.key, some key⟩ (.mapping entries) heap =
      Step.outcome key (.mapping entries) heap (Entries.get? entries key) := by
  simp only [apply, Step.index, Option.getD_some]
  cases Entries.get? entries key <;> rfl

theorem Step.outcome_eq_ok_iff {v part : Value} {found : Option Value} :
    Step.outcome key v heap found = .ok part ↔ found = some part := by
  cases found <;> simp [outcome]

theorem Step.outcome_eq_error_iff {v : Value} {found : Option Value} {failure : Failure} :
    Step.outcome key v heap found = .error failure ↔
      found = none ∧ failure = .reported (.keyNotFound key v.jsonText heap) := by
  cases found <;> simp [outcome, eq_comm]

/-- The numeral of a position below the length finds the item there, and any other key is reported
as not found. The mapping that the sequence becomes has the same part under every key. Positions have
64 bits, so no sequence is longer. -/
theorem World.apply_key_sequence {items : List Value} (addressable : items.length ≤ 2 ^ 64) :
    (∀ part, w.apply ⟨.key, some key⟩ (.sequence items) heap = .ok part ↔
      ∃ i, key = numeral i ∧ items[i]? = some part) ∧
    (w.apply ⟨.key, some key⟩ (.sequence items) heap =
        .error (.reported (.keyNotFound key (Value.sequence items).jsonText heap)) ↔
      ∀ i < items.length, key ≠ numeral i) ∧
    (∀ part, w.apply ⟨.key, some key⟩ (.mapping (asMapping (.sequence items))) heap = .ok part ↔
      w.apply ⟨.key, some key⟩ (.sequence items) heap = .ok part) ∧
    (w.apply ⟨.key, some key⟩ (.mapping (asMapping (.sequence items))) heap =
        .error (.reported (.keyNotFound key
          (Value.mapping (asMapping (.sequence items))).jsonText heap)) ↔
      w.apply ⟨.key, some key⟩ (.sequence items) heap =
        .error (.reported (.keyNotFound key (Value.sequence items).jsonText heap))) := by
  rw [apply_key_items, apply_key_entries, ← get?_asMapping_eq addressable]
  refine ⟨fun part => ?_, ?_, fun part => ?_, ?_⟩
  · rw [Step.outcome_eq_ok_iff, get?_asMapping_sequence]
  · rw [Step.outcome_eq_error_iff, and_iff_left rfl, get?_asMapping_eq_none_iff]
  · rw [Step.outcome_eq_ok_iff, Step.outcome_eq_ok_iff]
  · rw [Step.outcome_eq_error_iff, Step.outcome_eq_error_iff, and_iff_left rfl, and_iff_left rfl]

end

/-- Eleven items, of which only the last one has a text. -/
def eleven : List Value :=
  List.replicate 10 (.string "") ++ [.string "last"]

/-- A position of two digits, and the same one with a leading zero. -/
theorem World.apply_key_eleven :
    eleven.length ≤ 2 ^ 64 ∧
      (Tables.world {}).apply ⟨.key, some "10"⟩ (.sequence eleven) "" = .ok (.string "last") ∧
      (Tables.world {}).apply ⟨.key, some "10"⟩ (.mapping (asMapping (.sequence eleven))) "" =
        .ok (.string "last") ∧
      (Tables.world {}).apply ⟨.key, some "010"⟩ (.sequence eleven) "" =
        .error (.reported (.keyNotFound "010" (Value.sequence eleven).jsonText "")) ∧
      (Tables.world {}).apply ⟨.key, some "010"⟩ (.mapping (asMapping (.sequence eleven))) "" =
        .error (.reported (.keyNotFound "010"
          (Value.mapping (asMapping (.sequence eleven))).jsonText "")) := by
  have addressable : eleven.length ≤ 2 ^ 64 := by decide
  obtain ⟨found, _, promoted, _⟩ := (Tables.world {}).apply_key_sequence "10" addressable
  obtain ⟨_, absent, _, absentToo⟩ := (Tables.world {}).apply_key_sequence "010" addressable
  have last := (found (.string "last")).mpr ⟨10, by decide, rfl⟩
  have none := absent.mpr (by decide)
  exact ⟨addressable, last, (promoted _).mpr last, none, absentToo.mpr none⟩

end EnvTemplate
