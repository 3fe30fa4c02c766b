import EnvTemplate.Proofs.Value.WellFormed
import EnvTemplate.Proofs.World.Invariant
import EnvTemplate.Tables
/-! Every step keeps values well formed. The values that enter a run are either made of bytes, read
from a document or from a numeral, or given by a world whose constants and documents are well
formed. -/
namespace EnvTemplate

theorem Value.invariant_wellFormed : Value.Invariant Value.WellFormed where
  toInvariant := Query.invariant_wellFormed
  bool := .bool
  int := .int
  float wellFormed read := .float (wellFormed.isFinite_of_toFloat? read)
  bytes := wellFormed_ofBytes
  enumCase := .enumCase
  json read := wellFormed_ofJson (Json.read_spec read).2
  url decomposed := .mapping (Url.wellFormed_of_decompose decomposed)

/-- The constants and the documents of a world are well formed. -/
abbrev World.WellFormed (w : World) : Prop :=
  w.Provides Value.WellFormed

namespace World

variable {w : World}

/-- What a world gives for a list of steps or for a heap. -/
def IsResult (w : World) (v : Value) : Prop :=
  (∃ steps heap, w.interpret steps heap = .ok v) ∨ ∃ heap, w.resolve heap = .ok v

/-- Results are well formed. So two results with the same bytes are equal, wherever the bytes come
from, and JSON has nulls where a result has them and never for a float. -/
theorem wellFormed_results (world : w.WellFormed) :
    (∀ v, w.IsResult v → v.WellFormed) ∧
    (∀ v u bs, w.IsResult v → w.IsResult u → v.payload? = some bs → u.payload? = some bs →
      v = u) ∧
    ∀ v path, w.IsResult v →
      (∀ x, v.part? path = some (.float x) →
        v.toJson.part? path = some (.float x) ∧ (Json.float x).write ≠ Json.null.write) ∧
      (v.toJson.part? path = some .null ↔ v.part? path = some .null) := by
  have all : ∀ v, w.IsResult v → v.WellFormed := by
    rintro v (⟨steps, heap, given⟩ | ⟨heap, given⟩)
    · exact Value.invariant_wellFormed.of_interpret world given
    · exact Value.invariant_wellFormed.of_resolve world given
  refine ⟨all, fun v u bs given other payload same => ?_, fun v path given => ?_⟩
  · rw [(all v given).eq_ofBytes payload, (all u other).eq_ofBytes same]
  · exact ⟨fun x => (all v given).float_part?, (all v given).null_part?_iff⟩

end World

namespace Tables

/-- Tables of well-formed values make a well-formed world. -/
theorem wellFormed_world {t : Tables} (constants : ∀ entry ∈ t.constants, entry.2.WellFormed)
    (documents : ∀ entry ∈ t.documents, ∀ v, entry.2 = .ok v → v.WellFormed) :
    t.world.WellFormed where
  constant _ _ found := constants _ (Entries.mem_of_get? found)
  document path v loaded := by
    cases found : Entries.get? t.documents path with
    | none => simp [Tables.world, found] at loaded
    | some document =>
      simp only [Tables.world, found, Option.getD_some] at loaded
      exact documents _ (Entries.mem_of_get? found) v loaded

/-- A file whose bytes encode no text. -/
def byteFile : Tables where
  files := MemoryFiles.write [] "f" [0x31, 0xFF]

/-- The same bytes from a file and from base64. -/
theorem wellFormed_byteFile :
    ∃ v, v.WellFormed ∧ byteFile.world.resolve "file:f" = .ok v ∧
      byteFile.world.resolve "base64:direct:Mf8=" = .ok v := by
  have world : byteFile.world.WellFormed :=
    wellFormed_world (List.forall_mem_nil _) (List.forall_mem_nil _)
  obtain ⟨wellFormed, equal, _⟩ := World.wellFormed_results world
  have file : byteFile.world.IsResult (.bytes [0x31, 0xFF]) := .inr ⟨"file:f", rfl⟩
  have base64 : byteFile.world.IsResult (.bytes [0x31, 0xFF]) := .inr ⟨"base64:direct:Mf8=", rfl⟩
  refine ⟨.bytes [0x31, 0xFF], wellFormed _ file, rfl, ?_⟩
  rw [equal _ _ _ file base64 rfl rfl]
  rfl

end Tables
end EnvTemplate
