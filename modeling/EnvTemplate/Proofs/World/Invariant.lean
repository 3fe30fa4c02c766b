import EnvTemplate.Proofs.Json.Reading
import EnvTemplate.Proofs.Query.Invariant
import EnvTemplate.Proofs.World.Outcome
/-! Properties of values that every step keeps. Where all values that can enter a run have such a
property, its result has it: the constants and the documents of the world, and what bytes, numerals,
texts and documents stand for. -/
namespace EnvTemplate

/-- A property of values that holds of what is made anew, and that the parts have of what has it. -/
structure Value.Invariant (P : Value → Prop) : Prop extends Query.Invariant P where
  bool (b : Bool) : P (.bool b)
  int (n : Int64) : P (.int n)
  float {v : Value} {x : Binary64} : P v → v.toFloat? = some x → P (.float x)
  bytes (bs : List UInt8) : P (.ofBytes bs)
  enumCase (case : EnumCase) : P (.enumCase case)
  json {text : String} {document : Json} : Json.ofText text = .ok document → P (.ofJson document)
  url {text : List Char} {parts : Entries Value} : Url.decompose text = .ok parts → P (.mapping parts)

/-- The constants and the documents of a world have a property. -/
structure World.Provides (w : World) (P : Value → Prop) : Prop where
  constant : ∀ name v, w.lookupConstant? name = some v → P v
  document : ∀ path v, w.loadDocument path = .ok v → P v

section
variable {P : Value → Prop} {w : World} {s : Step} {v result : Value} {heap : String}

namespace Value.Invariant

variable (invariant : Value.Invariant P)
include invariant

/-- What one step keeps, whichever of the modifiers it has. -/
theorem of_makes (world : w.Provides P) (holds : P v) (made : w.Makes v s result) : P result := by
  cases made with
  | base64 | file => exact invariant.bytes _
  | bool | not => exact invariant.bool _
  | const _ found => exact world.constant _ _ found
  | enum => exact invariant.enumCase _
  | float read => exact invariant.float holds read
  | int => exact invariant.int _
  | json read => exact invariant.json read
  | item same _ at_i =>
    subst same
    exact invariant.item holds _ (List.mem_of_getElem? at_i)
  | entry same found =>
    subst same
    exact invariant.inner holds found
  | queryString parsed => exact invariant.ofPairs parsed
  | require _ loaded => exact world.document _ _ loaded
  | strcsv fields =>
    exact invariant.sequence (List.forall_mem_map.mpr fun field _ => invariant.string field)
  | url decomposed => exact invariant.url decomposed
  | direct | env | string | trim | urlencode => exact invariant.string _

/-! ### Runs -/

/-- What every step keeps, a run keeps. -/
theorem of_run (world : w.Provides P) {steps : List Step} (holds : P v)
    (given : w.run steps v heap = .ok result) : P result := by
  induction steps generalizing v with
  | nil => exact Except.ok.inj given ▸ holds
  | cons s rest ih =>
    rw [World.run, List.foldlM_cons] at given
    obtain ⟨next, applied, given⟩ := exists_of_bind given
    exact ih (invariant.of_makes world holds (World.makes_of_apply applied)) given

theorem of_interpret (world : w.Provides P) {steps : List Step}
    (given : w.interpret steps heap = .ok result) : P result :=
  invariant.of_run world invariant.null given

theorem of_resolve (world : w.Provides P) (given : w.resolve heap = .ok result) : P result := by
  obtain ⟨steps, _, given⟩ := exists_of_bind given
  exact invariant.of_interpret world given

end Value.Invariant

end

end EnvTemplate
