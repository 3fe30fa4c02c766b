import EnvTemplate.Yaml.Characters
/-! Gaps in scalars: the blanks and breaks between two parts of the text. A gap within a line is
kept; a gap across lines is folded. -/
namespace EnvTemplate.Yaml

/-- A gap read so far. It may begin with an escaped break, which is not among its characters. -/
structure Gap where
  spaces : List Char := []
  afterEscape : Bool := false

namespace Gap

def push (g : Gap) (c : Char) : Gap :=
  { g with spaces := g.spaces ++ [c] }

def crossesLine (g : Gap) : Bool :=
  g.afterEscape || g.spaces.any isBreak

/-- Whether a line starts right after the gap. -/
def endsLine (g : Gap) : Bool :=
  (g.spaces.getLast?.map isBreak).getD g.afterEscape

/-- What a gap stands for. A line feed alone is a space; before other breaks it is nothing, and so is
an escaped break. -/
def text (g : Gap) : List Char :=
  let breaks := g.spaces.filter isBreak
  if g.afterEscape then breaks
  else
    match breaks with
    | [] => g.spaces
    | '\n' :: [] => [' ']
    | '\n' :: later => later
    | _ => breaks

/-- The number of blanks after the last break. -/
def lastWidth (g : Gap) : Nat :=
  (g.spaces.reverse.takeWhile isBlank).length

/-- Whether all tabs after the first break stand at the given column or later. -/
def tabsFrom (g : Gap) (column : Nat) : Bool :=
  check false 0 g.spaces
where
  check (crossed : Bool) (place : Nat) : List Char → Bool
    | [] => true
    | c :: rest =>
      if isBreak c then check true 0 rest
      else (!crossed || c != '\t' || column ≤ place) && check crossed (place + 1) rest

end Gap

end EnvTemplate.Yaml
