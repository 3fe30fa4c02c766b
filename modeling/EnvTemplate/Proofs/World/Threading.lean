import EnvTemplate.Proofs.Heap.Chain
import EnvTemplate.Proofs.World.Outcome
/-! Errors and the heap that they are raised for. Every place that raises an error is given the heap of
the whole call and names it in the error; nothing else of the outcome depends on the heap. The parser
and the steps have this from the places where they fail, and a run has it from its first step that
fails. -/
namespace EnvTemplate

/-- The same error, raised for another heap. -/
def ResolveError.withHeap (heap : String) : ResolveError → ResolveError
  | invalidHeap reason _ => invalidHeap reason heap
  | invalidName subject found _ => invalidName subject found heap
  | invalidEnum enumType _ => invalidEnum enumType heap
  | invalidValue reason _ => invalidValue reason heap
  | undefinedReference kind name _ => undefinedReference kind name heap
  | keyNotFound key target _ => keyNotFound key target heap
  | unsupportedCase enumType value _ => unsupportedCase enumType value heap
  | fileNotFound path _ => fileNotFound path heap
  | fileRead path reason _ => fileRead path reason heap
  | load path reason _ => load path reason heap
  | nestingDepthExceeded limit => nestingDepthExceeded limit

def Failure.withHeap (heap : String) : Failure → Failure
  | reported error => reported (error.withHeap heap)
  | overflow => overflow

/-- An error for every heap, which it names. Apart from the heap it is always the same. -/
structure IsRaised (raise : String → ResolveError) : Prop where
  named : ∀ heap, (raise heap).heap? = some heap
  same : ∀ heap other, (raise heap).withHeap other = raise other

/-- What is made for a heap is the same for every heap, but for the heap that an error names. -/
abbrev Threads {α : Type} (place : String → Except Failure α) : Prop :=
  Outcome (fun _ => True) IsRaised place

section
variable {α : Type} {place : String → Except Failure α}

theorem threads_ok (result : α) : Threads fun _ => .ok result :=
  outcome_ok trivial

theorem Outcome.threads {G : α → Prop} {R : (String → ResolveError) → Prop}
    (outcome : Outcome G R place) (raised : ∀ raise, R raise → IsRaised raise) : Threads place :=
  outcome.mono (fun _ _ => trivial) raised

/-- For another heap the outcome is the same, but for the heap that an error names. -/
theorem Threads.elsewhere (threads : Threads place) (heap other : String) :
    place other = (place heap).mapError (·.withHeap other) := by
  cases threads with
  | ok result _ made =>
    rw [made, made]
    rfl
  | error raise raised failed =>
    rw [failed, failed, ← raised.same heap other]
    rfl
  | overflow stopped =>
    rw [stopped, stopped]
    rfl

theorem Threads.named (threads : Threads place) {heap : String} {e : ResolveError}
    (failed : place heap = .error (.reported e)) : e.heap? = some heap := by
  obtain ⟨raise, raised, rfl⟩ := threads.of_error failed
  exact raised.named heap

end

/-! ### Steps -/

namespace World

variable {w : World} {v : Value} {s : Step}

/-- All errors of a step name the heap that the place has been given. -/
theorem Raises.isRaised {raise : String → ResolveError} (raises : w.Raises v s raise) :
    IsRaised raise := by
  cases raises <;> exact ⟨fun _ => rfl, fun _ _ => rfl⟩

theorem Leads.threads {place : String → Except Failure Value} (leads : w.Leads v s place) :
    Threads place :=
  Outcome.threads leads fun _ => Raises.isRaised

/-- A run fails where one of its steps fails. -/
theorem threads_run (w : World) (v : Value) (steps : List Step) : Threads (w.run steps v) := by
  unfold run
  induction steps generalizing v with
  | nil => exact threads_ok v
  | cons s steps ih =>
    simp only [List.foldlM_cons]
    exact (w.outcome_apply s v).threads.bind fun u _ => ih u

end World

/-! ### The parser -/

theorem Heap.stepsOf_elsewhere (heap other : String) (parts : List String) :
    stepsOf other parts = (stepsOf heap parts).mapError (·.withHeap other) := by
  obtain ⟨row, made⟩ | ⟨fault, _, failed⟩ := readsAlike_stepsOf parts
  · simp only [made]
    rfl
  · simp only [failed]
    rfl

end EnvTemplate
