import EnvTemplate.Modifier
/-! One operation of a chain with its inline argument. -/
namespace EnvTemplate

structure Step where
  modifier : Modifier
  argument : Option String := none
deriving DecidableEq

namespace Step

/-- The heap parts that a step stands for, in heap order. -/
def tokens (s : Step) : List String :=
  s.modifier.token :: s.argument.toList

def text (s : Step) : String :=
  match s.argument with
  | some argument => s.modifier.token ++ ":" ++ argument
  | none => s.modifier.token

end EnvTemplate.Step
