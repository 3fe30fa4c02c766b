import EnvTemplate.Proofs.World.Prefixing
import EnvTemplate.Tables
/-! Errors name the heap of the whole call. The parser refuses a heap by its name, and a run ends with
the failure of the first step that fails, at a place that has been given the heap, whatever the steps
are and whatever the world answers. Every message ends with this heap. -/
namespace EnvTemplate

namespace ResolveError

/-- An error belongs to a heap and says so in its message. -/
structure Names (e : ResolveError) (heap : String) : Prop where
  owner : e.heap? = some heap
  message : ∃ front back, e.message = front ++ heap ++ back
  withinLimit : ∀ limit, e ≠ .nestingDepthExceeded limit

theorem append_origin (front heap : String) :
    front ++ origin heap = front ++ " (resolved from \"" ++ heap ++ "\")" := by
  have shape : origin heap = " (resolved from \"" ++ heap ++ "\")" := rfl
  rw [shape, ← String.append_assoc, ← String.append_assoc]

theorem exists_message_eq {e : ResolveError} {heap : String} (owner : e.heap? = some heap) :
    ∃ front back, e.message = front ++ heap ++ back := by
  have around {text front : String} (same : text = front ++ origin heap) :
      ∃ front back, text = front ++ heap ++ back :=
    ⟨_, _, same.trans (append_origin front heap)⟩
  cases e with
  | invalidHeap reason other =>
    obtain rfl := Option.some.inj owner
    exact ⟨reason ++ " in heap: ", "", (String.append_empty (s := _)).symm⟩
  | nestingDepthExceeded limit => contradiction
  | invalidName | invalidEnum | invalidValue | undefinedReference | keyNotFound | unsupportedCase
  | fileNotFound | fileRead | load =>
    obtain rfl := Option.some.inj owner
    exact around rfl

theorem Names.of_heap? {e : ResolveError} {heap : String} (owner : e.heap? = some heap) :
    e.Names heap where
  owner := owner
  message := exists_message_eq owner
  withinLimit limit := by
    rintro rfl
    contradiction

end ResolveError

namespace World

variable {w : World} {heap : String}

/-- A heap fails as no chain, or with the failure of its steps. -/
theorem resolve_eq_error_iff {failure : Failure} :
    w.resolve heap = .error failure ↔
      (∃ e, Heap.parse heap = .error e ∧ failure = .reported e) ∨
        ∃ steps, Heap.parse heap = .ok steps ∧ w.interpret steps heap = .error failure := by
  cases parsed : Heap.parse heap with
  | error e => simp [w.resolve_of_refused parsed, eq_comm]
  | ok steps =>
    have same : w.resolve heap = w.interpret steps heap := by
      rw [resolve, resolveBy, parsed]
      rfl
    simp [same]

/-- Every error of a heap names this heap, whether it is no chain or one of its steps fails. Every
error of a list of steps names the heap that the list is run for: it is the error of the first step
that fails, and for any other heap the same error comes and names that other one. No error is one of
the limit of passes. -/
theorem failures_name_heap (w : World) (heap : String) (e : ResolveError) :
    (w.resolve heap = .error (.reported e) → e.Names heap ∧
      (Heap.parse heap = .error e ∨
        ∃ steps, Heap.parse heap = .ok steps ∧
          w.interpret steps heap = .error (.reported e))) ∧
    ∀ steps, w.interpret steps heap = .error (.reported e) → e.Names heap ∧
      (∃ before s after v, steps = before ++ s :: after ∧ w.run before .null heap = .ok v ∧
        w.apply s v heap = .error (.reported e)) ∧
      ∀ other, w.interpret steps other = .error (.reported (e.withHeap other)) := by
  have run : ∀ steps, w.interpret steps heap = .error (.reported e) → e.Names heap :=
    fun steps failed => .of_heap? ((w.threads_run .null steps).named failed)
  constructor
  · intro failed
    obtain ⟨other, refused, same⟩ | ⟨steps, parsed, unmade⟩ := resolve_eq_error_iff.mp failed
    · obtain rfl := Failure.reported.inj same
      obtain ⟨fault, _, rfl⟩ := Heap.exists_fault_of_parse refused
      exact ⟨.of_heap? rfl, .inl refused⟩
    · exact ⟨run steps unmade, .inr ⟨steps, parsed, unmade⟩⟩
  · intro steps failed
    refine ⟨run steps failed, run_eq_error_iff.mp failed, fun other => ?_⟩
    have same := (w.threads_run .null steps).elsewhere heap other
    rw [interpret] at failed
    rw [interpret, same, failed]
    rfl

end World

/-- A file that is there and cannot be read, with a document that cannot be loaded. -/
def faultyTables : Tables where
  faults := [("f", .permissionDenied "g")]
  documents := [("f", .error (.io "torn"))]

/-- The file is asked for by its name, the error comes with another path, and steps that no heap has
are run; the heap is named in every case. -/
theorem faultyTables_names :
    faultyTables.world.resolve "trim:file:f" =
      .error (.reported (.fileRead "f" "Permission denied: g" "trim:file:f")) ∧
    (ResolveError.fileRead "f" "Permission denied: g" "trim:file:f").Names "trim:file:f" ∧
    (ResolveError.load "f" "IO error: torn" ":").Names ":" ∧
    (ResolveError.invalidValue "Modifier \"not\" takes no argument" "").Names "" := by
  have unread : faultyTables.world.resolve "trim:file:f" =
      .error (.reported (.fileRead "f" "Permission denied: g" "trim:file:f")) := rfl
  have file := (faultyTables.world.failures_name_heap "trim:file:f" _).1 unread
  have document := (faultyTables.world.failures_name_heap ":" _).2
    [⟨.direct, some "f"⟩, ⟨.require, none⟩, ⟨.bool, some "x"⟩] rfl
  have argument := (faultyTables.world.failures_name_heap "" _).2 [⟨.not, some ":"⟩] rfl
  exact ⟨unread, file.1, document.1, argument.1⟩

end EnvTemplate
