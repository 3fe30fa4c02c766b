import EnvTemplate.Proofs.Template.Unmarked
import EnvTemplate.Value.Text
/-! Values in which the name inside the marker does not occur. Their texts and their JSON documents
lack it too: numerals have no underscore, and what JSON adds to a text has no capital letter. -/
namespace EnvTemplate
open Template

/-! ### Numerals -/

theorem Decimal.underscore_notMem_ofNat (n : Nat) : '_' ∉ Decimal.ofNat n := by
  intro member
  have digit := Nat.isDigit_of_mem_toDigits (by decide) (by decide) member
  exact absurd digit (by decide)

theorem Decimal.unmarked_ofNat (n : Nat) : Template.Unmarked (Decimal.ofNat n) :=
  unmarked_of_notMem (by decide) (Decimal.underscore_notMem_ofNat n)

theorem Decimal.unmarked_ofInt (n : Int) : Template.Unmarked (Decimal.ofInt n) := by
  cases n with
  | ofNat n => exact Decimal.unmarked_ofNat n
  | negSucc n => exact (unmarked_cons (by decide)).mpr (Decimal.unmarked_ofNat (n + 1))

namespace Shortest

theorem underscore_notMem_digits (tie : Tie) (x : Binary64) :
    '_' ∉ (ofBinary64 tie x).digits := by
  intro member
  have inside := (List.dropWhile_suffix _).subset (List.mem_reverse.mp member)
  have digit := Nat.isDigit_of_mem_toDigits (by decide) (by decide) (List.mem_reverse.mp inside)
  exact absurd digit (by decide)

theorem underscore_notMem_positional {s : Shortest} (absent : '_' ∉ s.digits) :
    '_' ∉ s.positional := by
  have front : ∀ n, '_' ∉ s.digits.take n := fun n member => absent (List.mem_of_mem_take member)
  have back : ∀ n, '_' ∉ s.digits.drop n := fun n member => absent (List.mem_of_mem_drop member)
  rw [positional]
  split
  · simpa using absent
  · split <;> simp [absent, front, back]
  · simpa using absent

theorem underscore_notMem_scientific {s : Shortest} (absent : '_' ∉ s.digits) :
    '_' ∉ s.scientific := by
  have first : '_' ∉ s.digits.take 1 := fun member => absent (List.mem_of_mem_take member)
  have fraction : '_' ∉ s.digits.drop 1 := fun member => absent (List.mem_of_mem_drop member)
  have power := Decimal.underscore_notMem_ofNat (s.point - 1).natAbs
  simp only [scientific, List.mem_append, List.mem_cons, not_or]
  refine ⟨⟨first, ?_⟩, by decide, ?_, power⟩
  · split
    · exact List.not_mem_nil
    · simpa using fraction
  · split <;> decide

end Shortest

namespace Binary64

theorem underscore_notMem_signed {negative : Bool} {body : List Char} (absent : '_' ∉ body) :
    '_' ∉ if negative then '-' :: body else body := by
  split
  · simpa using absent
  · exact absent

theorem unmarked_toPlainText (x : Binary64) : Template.Unmarked x.toPlainText := by
  have digits := Shortest.underscore_notMem_positional (Shortest.underscore_notMem_digits .up x)
  refine unmarked_of_notMem (c := '_') (by decide) ?_
  rw [toPlainText]
  split
  · decide
  · refine underscore_notMem_signed ?_
    split
    · decide
    · split
      · decide
      · exact digits

theorem unmarked_toMarkedText (x : Binary64) : Template.Unmarked x.toMarkedText := by
  have digits := Shortest.underscore_notMem_digits .even x
  have positional := Shortest.underscore_notMem_positional digits
  refine unmarked_of_notMem (c := '_') (by decide) (underscore_notMem_signed ?_)
  split
  · decide
  · dsimp only
    split
    · split
      · simpa using positional
      · exact positional
    · exact Shortest.underscore_notMem_scientific digits

end Binary64

/-! ### JSON -/

namespace Json

theorem writeChar_spec (c : Char) :
    writeChar c = [c] ∨ writeChar c ≠ [] ∧ (writeChar c).all (· ∉ markName) := by
  have hexDigits : ∀ n < 16, hexDigit n ∉ markName := by decide
  rw [writeChar]
  -- the seven escapes of two characters
  iterate 7
    split
    · exact Or.inr (by decide)
  split
  · rename_i control
    have high := hexDigits (c.toNat / 16) (by omega)
    have low := hexDigits (c.toNat % 16) (by omega)
    refine Or.inr ⟨List.cons_ne_nil _ _, ?_⟩
    have lead : ['\\', 'u', '0', '0'].all (· ∉ markName) := by decide
    have digits : [hexDigit (c.toNat / 16), hexDigit (c.toNat % 16)].all (· ∉ markName) := by
      simp [high, low]
    exact List.all_append.trans (Bool.and_eq_true_iff.mpr ⟨lead, digits⟩)
  · exact Or.inl rfl

theorem unmarked_writeString {s : String} (unmarked : Unmarked s.toList) :
    Unmarked (writeString s) :=
  (unmarked.flatMap writeChar_spec).enclosed (by decide) (by decide)

theorem unmarked_writeFloat (x : Binary64) : Unmarked (writeFloat x) := by
  rw [writeFloat]
  split
  · exact x.unmarked_toMarkedText
  · decide

end Json

/-! ### Values -/

def Backing.Unmarked : Backing → Prop
  | .int _ => True
  | .string s => Template.Unmarked s.toList

def EnumCase.Unmarked (case : EnumCase) : Prop :=
  Template.Unmarked case.enumType.toList ∧ Template.Unmarked case.name.toList ∧
    case.backing.Unmarked

namespace Value

mutual

/-- The name inside the marker does not occur in the texts of a value, its keys included. -/
def Unmarked : Value → Prop
  | .null | .bool _ | .int _ | .float _ => True
  | .string s => Template.Unmarked s.toList
  | .bytes bs => Template.Unmarked (Utf8.decodeLossy bs)
  | .sequence items => ItemsUnmarked items
  | .mapping entries => EntriesUnmarked entries
  | .enumCase case => case.Unmarked

def ItemsUnmarked : List Value → Prop
  | [] => True
  | item :: rest => Unmarked item ∧ ItemsUnmarked rest

def EntriesUnmarked : List (String × Value) → Prop
  | [] => True
  | (key, value) :: rest =>
    Template.Unmarked key.toList ∧ Unmarked value ∧ EntriesUnmarked rest

end

theorem ItemsUnmarked.of_mem {items : List Value} (unmarked : ItemsUnmarked items) {item : Value}
    (member : item ∈ items) : item.Unmarked := by
  induction items with
  | nil => exact absurd member List.not_mem_nil
  | cons first rest ih =>
    obtain rfl | later := List.mem_cons.mp member
    · exact unmarked.1
    · exact ih unmarked.2 later

theorem EntriesUnmarked.of_mem {entries : List (String × Value)}
    (unmarked : EntriesUnmarked entries) {key : String} {value : Value}
    (member : (key, value) ∈ entries) : value.Unmarked := by
  induction entries with
  | nil => exact absurd member List.not_mem_nil
  | cons first rest ih =>
    obtain rfl | later := List.mem_cons.mp member
    · exact unmarked.2.1
    · exact ih unmarked.2.2 later

theorem Unmarked.scalarText {v : Value} (unmarked : v.Unmarked) {text : String}
    (scalar : v.scalarText? = some text) : Template.Unmarked text.toList := by
  cases v with
  | bool b =>
    cases b with
    | true =>
      obtain rfl := Option.some.inj scalar
      decide
    | false =>
      obtain rfl := Option.some.inj scalar
      decide
  | int n =>
    obtain rfl := Option.some.inj scalar
    rw [String.toList_ofList]
    exact Decimal.unmarked_ofInt n.toInt
  | float x =>
    obtain rfl := Option.some.inj scalar
    rw [String.toList_ofList]
    exact x.unmarked_toPlainText
  | string s =>
    obtain rfl := Option.some.inj scalar
    exact unmarked
  | bytes bs =>
    obtain rfl := Option.some.inj scalar
    rw [String.toList_ofList]
    exact unmarked
  | null | sequence items | mapping entries | enumCase case => contradiction

mutual

theorem unmarked_write : (v : Value) → v.Unmarked → Template.Unmarked v.toJson.write
  | .null, _ => by decide
  | .bool true, _ => by decide
  | .bool false, _ => by decide
  | .int n, _ => Decimal.unmarked_ofInt n.toInt
  | .float x, _ => by
    rw [toJson]
    split
    · exact Json.unmarked_writeFloat x
    · decide
  | .string s, unmarked => Json.unmarked_writeString unmarked
  | .bytes bs, unmarked => Json.unmarked_writeString (by rwa [String.toList_ofList])
  | .sequence items, unmarked =>
    (unmarked_writeItems items unmarked).enclosed (by decide) (by decide)
  | .mapping entries, unmarked =>
    (unmarked_writeMembers entries unmarked).enclosed (by decide) (by decide)
  | .enumCase ⟨_, _, .int n⟩, _ => Decimal.unmarked_ofInt n.toInt
  | .enumCase ⟨_, _, .string _⟩, ⟨_, _, unmarked⟩ => Json.unmarked_writeString unmarked

theorem unmarked_writeItems : (items : List Value) → ItemsUnmarked items →
    Template.Unmarked (Json.writeItems (itemsToJson items))
  | [], _ => by decide
  | [item], ⟨first, _⟩ => unmarked_write item first
  | item :: next :: rest, ⟨first, later⟩ =>
    (unmarked_append_cons (by decide)).mpr
      ⟨unmarked_write item first, unmarked_writeItems (next :: rest) later⟩

theorem unmarked_writeMembers : (entries : List (String × Value)) → EntriesUnmarked entries →
    Template.Unmarked (Json.writeMembers (entriesToJson entries))
  | [], _ => by decide
  | [(key, value)], ⟨name, content, _⟩ =>
    (unmarked_append_cons (by decide)).mpr
      ⟨Json.unmarked_writeString name, unmarked_write value content⟩
  | (key, value) :: next :: rest, ⟨name, content, later⟩ =>
    (unmarked_append_cons (by decide)).mpr
      ⟨Json.unmarked_writeString name, (unmarked_append_cons (by decide)).mpr
        ⟨unmarked_write value content, unmarked_writeMembers (next :: rest) later⟩⟩

end

theorem Unmarked.jsonText {v : Value} (unmarked : v.Unmarked) :
    Template.Unmarked v.jsonText.toList := by
  rw [Value.jsonText, Json.toText, String.toList_ofList]
  exact unmarked_write v unmarked

theorem Unmarked.getD_scalarText {v : Value} (unmarked : v.Unmarked) :
    Template.Unmarked (v.scalarText?.getD "").toList := by
  cases scalar : v.scalarText? with
  | none => decide
  | some text => exact unmarked.scalarText scalar

theorem Unmarked.toText {v : Value} (unmarked : v.Unmarked) :
    Template.Unmarked v.toText.toList := by
  cases v with
  | null => decide
  | sequence items => exact unmarked.jsonText
  | mapping entries => exact unmarked.jsonText
  | enumCase case =>
    have backed : case.backing.toValue.Unmarked := by
      have inner := unmarked.2.2
      cases backing : case.backing with
      | int n => trivial
      | string s => rwa [backing] at inner
    exact backed.getD_scalarText
  | bool b => exact unmarked.getD_scalarText
  | int n => exact unmarked.getD_scalarText
  | float x => exact unmarked.getD_scalarText
  | string s => exact unmarked.getD_scalarText
  | bytes bs => exact unmarked.getD_scalarText

end Value

end EnvTemplate
