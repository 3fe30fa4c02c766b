import EnvTemplate.Yaml.Characters
/-! Block scalars: the indented lines after a header. A literal scalar keeps its line breaks, a folded
one joins lines; the header says what becomes of the breaks at the end. -/
namespace EnvTemplate.Yaml.Block

/-- What becomes of the breaks after the last line: none is kept, one, or all. -/
inductive Chomping
  | strip
  | clip
  | keep
deriving DecidableEq

structure Header where
  chomping : Chomping := .clip
  /-- How much deeper than its parent the scalar is indented, if the header says so. -/
  increment : Option Nat := none

def chomping? (c : Char) : Option Chomping :=
  if c = '+' then some .keep else if c = '-' then some .strip else none

/-- The indentation that a digit gives, which is not zero. -/
def increment? (c : Char) : Option Nat :=
  if c.isDigit ∧ c ≠ '0' then some (c.toNat - '0'.toNat) else none

/-- Reads the two indicators of a header in any order. -/
def indicators : List Char → Header × List Char
  | [] => ({}, [])
  | c :: rest =>
    match chomping? c, increment? c with
    | some chomping, _ =>
      match rest.head?.bind increment? with
      | some n => (⟨chomping, some n⟩, rest.drop 1)
      | none => (⟨chomping, none⟩, rest)
    | none, some n =>
      match rest.head?.bind chomping? with
      | some chomping => (⟨chomping, some n⟩, rest.drop 1)
      | none => (⟨.clip, some n⟩, rest)
    | none, none => ({}, c :: rest)

/-- A line of the text with its break, which the last line may lack. -/
structure Line where
  text : List Char
  ending : List Char

namespace Line

def all (text : List Char) : List Line :=
  text.foldr step []
where
  step (c : Char) (lines : List Line) : List Line :=
    if isBreak c then ⟨[], [c]⟩ :: lines
    else
      match lines with
      | [] => [⟨[c], []⟩]
      | line :: rest => ⟨c :: line.text, line.ending⟩ :: rest

def join (lines : List Line) : List Char :=
  lines.flatMap fun line => line.text ++ line.ending

def width (line : Line) : Nat :=
  (line.text.takeWhile (· == ' ')).length

/-- Whether a line has a break and else only spaces. -/
def isEmpty (line : Line) : Bool :=
  line.text.all (· == ' ') && !line.ending.isEmpty

/-- Whether a tab stands right after the spaces at the front. -/
def hasTab (line : Line) : Bool :=
  (line.text.drop line.width).head? == some '\t'

end Line

/-- The indentation of a scalar whose header does not give it: that of its first line with text, or
of a wider empty line before it, and at least the given one. -/
def detect (least : Nat) (lines : List Line) : Option Nat :=
  let first := ((lines.dropWhile Line.isEmpty).head?).getD ⟨[], []⟩
  if first.hasTab then none
  else
    let widths := (lines.takeWhile Line.isEmpty).map Line.width
    some (max (widths.foldl max first.width) least)

/-- A line of a scalar without its indentation, and the breaks of the empty lines after it. -/
structure Paragraph where
  text : List Char
  ending : List Char
  breaks : List Char

/-- The breaks of the empty lines at the front, the lines with text after them, and the lines after
the scalar. -/
def body (indent : Nat) : List Line → Option (List Char × List Paragraph × List Line)
  | [] => some ([], [], [])
  | line :: rest =>
    if line.isEmpty && line.width ≤ indent then do
      let (breaks, paragraphs, left) ← body indent rest
      some (line.ending ++ breaks, paragraphs, left)
    else if line.width < indent then
      if line.hasTab then none else some ([], [], line :: rest)
    else
      match line.text.drop indent with
      | [] => some ([], [], [])
      | text => do
        let (breaks, paragraphs, left) ← body indent rest
        some ([], ⟨text, line.ending, breaks⟩ :: paragraphs, left)

/-- What stands between two lines. A line feed between lines that begin with no blank is folded. -/
def between (folded : Bool) (p : Paragraph) (next : List Char) : List Char :=
  if folded && p.ending == ['\n'] && !p.text.head?.any isBlank && !next.head?.any isBlank then
    if p.breaks.isEmpty then [' '] else p.breaks
  else p.ending ++ p.breaks

def textOf (folded : Bool) (chomping : Chomping) : List Paragraph → List Char
  | [] => []
  | [p] =>
    p.text ++
      match chomping with
      | .strip => []
      | .clip => p.ending
      | .keep => p.ending ++ p.breaks
  | p :: q :: rest => p.text ++ between folded p q.text ++ textOf folded chomping (q :: rest)

/-- Reads a block scalar after its first indicator. The parent is indented less than `least`. -/
def read (folded : Bool) (least : Nat) (text : List Char) : Option (List Char × List Char) := do
  let (header, rest) := indicators text
  let lines := Line.all (← endOfLine? rest)
  let indent ←
    match header.increment with
    | some n => some (least - 1 + n)
    | none => detect (max least 1) lines
  let (breaks, paragraphs, left) ← body indent lines
  let content :=
    if paragraphs.isEmpty then (if header.chomping = .keep then breaks else [])
    else breaks ++ textOf folded header.chomping paragraphs
  some (content, Line.join left)

end EnvTemplate.Yaml.Block
