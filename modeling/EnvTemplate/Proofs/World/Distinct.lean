import EnvTemplate.Proofs.Entries.History
import EnvTemplate.Proofs.Url.Port
import EnvTemplate.Proofs.Value.Exchange
import EnvTemplate.Proofs.World.Documents
import EnvTemplate.Proofs.World.Indexing
/-! No key of a mapping comes twice, in whatever steps make of the constants and the documents of a
world. So what JSON has a place for comes back from the text of its document, with nothing to assume
of keys. -/
namespace EnvTemplate

namespace Entries

variable {α : Type} {m : Entries α}

theorem Distinct.insert (distinct : Distinct m) (key : String) (value : α) :
    Distinct (Entries.insert m key value) := by
  rw [Distinct, keys_insert]
  split
  · exact distinct
  · rename_i new
    exact List.Nodup.append distinct (List.nodup_singleton key) (by simpa using new)

end Entries

namespace Value

def DistinctKeys (v : Value) : Prop :=
  v.all hasDistinctKeys = true

theorem distinctKeys_sequence {items : List Value} :
    (sequence items).DistinctKeys ↔ ∀ item ∈ items, item.DistinctKeys := by
  rw [DistinctKeys, all_sequence]
  exact and_iff_right rfl

theorem distinctKeys_mapping {entries : Entries Value} :
    (mapping entries).DistinctKeys ↔
      Entries.Distinct entries ∧ ∀ entry ∈ entries, entry.2.DistinctKeys := by
  rw [DistinctKeys, all_mapping, hasDistinctKeys, decide_eq_true_iff]
  rfl

/-- A sequence taken for a mapping has its positions as keys, and what is neither has none. -/
theorem DistinctKeys.asMapping {slot : Value} (distinct : slot.DistinctKeys) :
    (mapping (Query.asMapping slot)).DistinctKeys := by
  cases slot with
  | mapping entries => exact distinct
  | sequence items =>
    refine distinctKeys_mapping.mpr ⟨distinct_asMapping_sequence items, fun entry member => ?_⟩
    obtain ⟨i, short, rfl⟩ := List.mem_mapIdx.mp member
    exact distinctKeys_sequence.mp distinct _ (List.getElem_mem short)
  | null | bool | int | float | string | bytes | enumCase => rfl

theorem invariant_ofJson : Json.Invariant fun document => (ofJson document).DistinctKeys where
  null := rfl
  bool _ := rfl
  number {n} _ := by
    cases n with
    | integer n =>
      rw [Json.Number.toJson, ofJson]
      split <;> rfl
    | float x => rfl
  string _ := rfl
  array all := by
    rw [ofJson, itemsOfJson_eq_map]
    exact distinctKeys_sequence.mpr (List.forall_mem_map.mpr all)
  object {members} all := by
    have inner : ∀ entry ∈ Entries.ofPairs members, (ofJson entry.2).DistinctKeys :=
      Entries.forall_ofPairs (P := fun document => (ofJson document).DistinctKeys) all
    rw [ofJson, entriesOfJson_eq_map]
    refine distinctKeys_mapping.mpr ⟨?_, List.forall_mem_map.mpr inner⟩
    rw [Entries.Distinct, Entries.keys, List.map_map]
    exact Entries.distinct_ofPairs members

theorem distinctKeys_of_decompose {text : List Char} {parts : Entries Value}
    (decomposed : Url.decompose text = .ok parts) : (mapping parts).DistinctKeys := by
  have plain (part? : Option (List Char)) : (Url.textOrNull part?).DistinctKeys := by
    cases part? <;> rfl
  obtain ⟨url, host, _, _, _, _, rfl⟩ := Url.exists_of_decompose decomposed
  have keys : Entries.keys (url.parts host.text text) =
      ["scheme", "host", "port", "user", "pass", "path", "query", "fragment"] := rfl
  refine distinctKeys_mapping.mpr ⟨?_, ?_⟩
  · rw [Entries.Distinct, keys]
    decide
  · simp only [Url.parts, List.forall_mem_cons]
    refine ⟨rfl, rfl, ?_, plain _, plain _, rfl, plain _, plain _, List.forall_mem_nil _⟩
    split <;> rfl

theorem invariant_distinctKeys : Value.Invariant DistinctKeys where
  null := rfl
  string _ := rfl
  sequence := distinctKeys_sequence.mpr
  item := distinctKeys_sequence.mp
  empty := rfl
  insert key slot child := by
    obtain ⟨distinct, inner⟩ := distinctKeys_mapping.mp slot.asMapping
    exact distinctKeys_mapping.mpr ⟨distinct.insert key _, Entries.forall_insert inner child⟩
  inner slot found := (distinctKeys_mapping.mp slot.asMapping).2 _ (Entries.mem_of_get? found)
  bool _ := rfl
  int _ := rfl
  float _ _ := rfl
  bytes bs := by
    rw [ofBytes]
    split <;> rfl
  enumCase _ := rfl
  json read := (invariant_ofJson.of_read read).2
  url := distinctKeys_of_decompose

end Value

/-! ### Worlds -/

theorem World.distinctKeys_of_result {w : World} (world : w.Provides Value.DistinctKeys) {v : Value}
    (given : w.IsResult v) : v.DistinctKeys := by
  obtain ⟨steps, heap, given⟩ | ⟨heap, given⟩ := given
  · exact Value.invariant_distinctKeys.of_interpret world given
  · exact Value.invariant_distinctKeys.of_resolve world given

/-- A result that JSON has a place for, and that has no float and is not too deep, is given back by the
text of its document. -/
theorem World.apply_json_of_result {w : World} (world : w.Provides Value.DistinctKeys) {v : Value}
    (given : w.IsResult v) (portable : v.all Value.isPortable = true)
    (floatless : v.all (!·.isFloat) = true) (shallow : v.depth ≤ 127) (other : World)
    (argument : Option String) (heap : String) :
    other.apply ⟨.json, argument⟩ (.string v.jsonText) heap = .ok v := by
  have exact := Value.exact_toJson portable floatless (distinctKeys_of_result world given) shallow
  have applied := Value.apply_json_of_ofText (Json.ofText_toText exact) other argument heap
  rwa [Value.ofJson_toJson portable] at applied

theorem LocalWorld.distinctKeys_world {l : LocalWorld}
    (constants : ∀ entry ∈ l.constants, entry.2.DistinctKeys) :
    l.world.Provides Value.DistinctKeys :=
  provides Value.invariant_ofJson (fun _ => id) constants

end EnvTemplate
