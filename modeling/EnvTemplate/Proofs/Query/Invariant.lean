import EnvTemplate.Proofs.Entries
import EnvTemplate.Query
/-! What holds of the data of a query however its pairs are stored. A property that one text in a slot
keeps is kept by every pair, and holds of the data that all pairs build. -/
namespace EnvTemplate.Query

/-- A property of values that putting a value into another one keeps, at the end of a sequence or under
a key, and that the parts have of what has it. -/
structure Invariant (P : Value → Prop) : Prop where
  null : P .null
  string (text : String) : P (.string text)
  sequence {items : List Value} : (∀ item ∈ items, P item) → P (.sequence items)
  item {items : List Value} : P (.sequence items) → ∀ item ∈ items, P item
  empty : P (.mapping [])
  insert {slot child : Value} (key : String) : P slot → P child →
    P (.mapping (Entries.insert (asMapping slot) key child))
  inner {slot v : Value} {key : String} : P slot → Entries.get? (asMapping slot) key = some v → P v

namespace Invariant

variable {P : Value → Prop} (invariant : Invariant P)
include invariant

theorem assign {slot changed : Value} (holds : P slot) {segments : List Segment} {text : String}
    (stored : assign slot segments text = some changed) : P changed := by
  induction segments generalizing slot changed with
  | nil =>
    obtain rfl := Option.some.inj stored
    exact invariant.string text
  | cons segment rest ih =>
    cases segment with
    | append =>
      obtain ⟨child, made, stored⟩ := Option.bind_eq_some_iff.mp stored
      have new := ih invariant.null made
      have alone : P (.sequence [child]) := invariant.sequence (by simpa using new)
      cases slot with
      | sequence items =>
        obtain rfl := Option.some.inj stored
        refine invariant.sequence fun item member => ?_
        obtain old | last := List.mem_append.mp member
        · exact invariant.item holds item old
        · rwa [List.mem_singleton.mp last]
      | mapping entries =>
        obtain ⟨index, _, same⟩ := Option.bind_eq_some_iff.mp stored
        obtain rfl := Option.some.inj same
        exact invariant.insert _ holds new
      | null | bool | int | float | string | bytes | enumCase =>
        obtain rfl := Option.some.inj stored
        exact alone
    | under key =>
      obtain ⟨child, made, same⟩ := Option.bind_eq_some_iff.mp stored
      obtain rfl := Option.some.inj same
      refine invariant.insert key holds (ih ?_ made)
      cases found : Entries.get? (asMapping slot) key with
      | none => exact invariant.null
      | some v => exact invariant.inner holds found

theorem store {entries changed : Entries Value} (holds : P (.mapping entries))
    {pair : List Char × List Char} (stored : store entries pair = some changed) :
    P (.mapping changed) := by
  cases split : splitKey pair.1 with
  | none =>
    rw [Query.store, split] at stored
    obtain rfl := Option.some.inj stored
    exact holds
  | some key =>
    have along : (Query.store entries pair).map Value.mapping = _ := mapping_store split
    rw [stored] at along
    exact invariant.assign holds along.symm

theorem foldlM {before entries : Entries Value} (holds : P (.mapping before))
    {pairs : List (List Char × List Char)} (built : pairs.foldlM Query.store before = some entries) :
    P (.mapping entries) := by
  induction pairs generalizing before with
  | nil =>
    obtain rfl := Option.some.inj built
    exact holds
  | cons pair pairs ih =>
    obtain ⟨next, stored, built⟩ := Option.bind_eq_some_iff.mp built
    exact ih (invariant.store holds stored) built

theorem ofPairs {pairs : List (List Char × List Char)} {entries : Entries Value}
    (built : ofPairs pairs = some entries) : P (.mapping entries) :=
  invariant.foldlM invariant.empty built

end Invariant

end EnvTemplate.Query
