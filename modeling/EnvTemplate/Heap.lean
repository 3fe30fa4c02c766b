import EnvTemplate.Failure
import EnvTemplate.Step
/-! Heaps: chains of modifiers written as parts between colons, the last part being the name or the
value that the chain starts from. The chain is run from its end, so the steps of a heap come in
reverse. -/
namespace EnvTemplate.Heap

/-- Why a heap is no chain. -/
inductive Fault
  /-- A part that should name a modifier and does not. -/
  | unexpected (part : String)
  /-- A modifier that must stand right before the last part and does not. -/
  | onlyPenultimate (m : Modifier)
  /-- A modifier without an argument and a source after it. -/
  | missedArgument (m : Modifier)
deriving DecidableEq

def Fault.text : Fault → String
  | .unexpected part => "Unexpected modifier \"" ++ part ++ "\""
  | .onlyPenultimate m => "Modifier \"" ++ m.token ++ "\" allowed only as penultimate"
  | .missedArgument m => "Missed argument of \"" ++ m.token ++ "\""

def Fault.error (fault : Fault) (heap : String) : ResolveError :=
  .invalidHeap fault.text heap

def rawParts (heap : String) : List String :=
  (heap.toList.splitOn ':').map String.ofList

/-- Puts the modifier `env` before the last of two or more parts, unless a source stands there. -/
def withSource : List String → List String
  | [m, name] =>
    if (Modifier.ofToken? m).any Modifier.isSource then [m, name]
    else [m, Modifier.env.token, name]
  | part :: rest => part :: withSource rest
  | [] => []

/-- The parts of a heap with its implicit source. A single part is the name of a variable. -/
def parts (heap : String) : List String :=
  match rawParts heap with
  | [name] => [Modifier.env.token, name]
  | raw => withSource raw

/-- The steps of a row of parts of a heap, in the order of the parts. -/
def stepsOf (heap : String) : List String → Except ResolveError (List Step)
  | [] => .ok []
  | part :: rest =>
    match Modifier.ofToken? part with
    | none => .error (Fault.error (.unexpected part) heap)
    | some m =>
      match m.arity with
      | .lonely => (⟨m, none⟩ :: ·) <$> stepsOf heap rest
      | .nameBearing =>
        match rest with
        | [name] => .ok [⟨m, some name⟩]
        | rest => (⟨m, none⟩ :: ·) <$> stepsOf heap rest
      | .mandatoryArgument =>
        match rest with
        | [argument] => .ok [⟨m, some argument⟩]
        | _ => .error (Fault.error (.onlyPenultimate m) heap)
      | .dualArgument =>
        match rest with
        | argument :: a :: b :: rest => (⟨m, some argument⟩ :: ·) <$> stepsOf heap (a :: b :: rest)
        | _ => .error (Fault.error (.missedArgument m) heap)

/-- The steps of a heap in the order in which they run. -/
def parse (heap : String) : Except ResolveError (List Step) :=
  List.reverse <$> stepsOf heap (parts heap)

end EnvTemplate.Heap
