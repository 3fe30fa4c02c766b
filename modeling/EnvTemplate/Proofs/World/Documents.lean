import EnvTemplate.LocalWorld
import EnvTemplate.Proofs.World.WellFormed
import EnvTemplate.Proofs.Yaml.Json
/-! Documents in files. Whatever the parts of a document keep holds of every document that is loaded,
and so the world of a process provides values that are well formed. -/
namespace EnvTemplate

/-- A loaded document has whatever its parts keep, in either format. -/
theorem Document.exists_of_load {tree : FileTree} {path : String} {v : Value}
    (loaded : load tree path = .ok v) :
    ∃ document, v = .ofJson document ∧ ∀ P : Json → Prop, Json.Invariant P → P document := by
  rw [load] at loaded
  split at loaded
  · contradiction
  rename_i format _
  split at loaded
  · contradiction
  rename_i bytes _
  split at loaded
  · rename_i document given
    refine ⟨document, (Except.ok.inj loaded).symm, fun P invariant => ?_⟩
    cases format with
    | json =>
      rw [Document.read] at given
      cases read : Json.read bytes with
      | error error => simp [read, Except.mapError] at given
      | ok other =>
        obtain rfl : other = document := by simpa [read, Except.mapError] using given
        exact (invariant.of_read read).2
    | yaml =>
      rw [Document.read] at given
      cases read : Yaml.toJson? bytes with
      | none => simp [read] at given
      | some other =>
        obtain rfl : other = document := by simpa [read] using given
        exact Yaml.of_toJson? invariant read
  · contradiction

namespace LocalWorld

variable {l : LocalWorld}

/-- The world of a process provides what its constants and the values of all documents have. -/
theorem provides {P : Value → Prop} {Q : Json → Prop} (invariant : Json.Invariant Q)
    (kept : ∀ document, Q document → P (.ofJson document))
    (constants : ∀ entry ∈ l.constants, P entry.2) : l.world.Provides P where
  constant _ _ found := constants _ (Entries.mem_of_get? found)
  document _ _ loaded := by
    obtain ⟨document, rfl, holds⟩ := Document.exists_of_load loaded
    exact kept document (holds Q invariant)

theorem wellFormed_world (constants : ∀ entry ∈ l.constants, entry.2.WellFormed) :
    l.world.WellFormed :=
  provides Json.invariant_bounded (fun _ => Value.wellFormed_ofJson) constants

end LocalWorld

end EnvTemplate
