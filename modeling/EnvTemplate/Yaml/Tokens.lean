import EnvTemplate.Yaml.Scalar.Block
import EnvTemplate.Yaml.Scalar.Plain
import EnvTemplate.Yaml.Scalar.Quoted
import EnvTemplate.Yaml.Tag
/-! The tokens of a text. Indentation opens and closes block collections. Whether a token begins a key
shows only at the colon after it, so the place of such a token is kept, and the token that
announces a key is put before it when the colon comes. -/
namespace EnvTemplate.Yaml

/-- A token that may begin a key. -/
structure KeyCandidate where
  /-- The number of tokens before it. -/
  index : Nat
  position : Position
  /-- Whether it can be nothing but a key. -/
  required : Bool

/-- A key ends on the line where it begins, after at most 1024 characters. -/
def KeyCandidate.isStale (k : KeyCandidate) (p : Position) : Bool :=
  k.position.line < p.line || k.position.column + 1024 < p.column

/-- How far a text has been read. -/
structure Scan where
  rest : List Char
  position : Position
  /-- The tokens so far, the last one first. -/
  tokens : List Token := []
  /-- The indentations of the open block collections, the innermost first. -/
  indents : List Nat := []
  /-- Whether a key may begin here. -/
  keyAllowed : Bool := true
  candidate : Option KeyCandidate := none
  /-- The candidates outside each pair of brackets that is open, the innermost first. -/
  outer : List (Option KeyCandidate) := []

namespace Scan

/-- The start of a text. A byte order mark takes a column. -/
def start (text : List Char) : Scan :=
  match text with
  | '\uFEFF' :: rest => { rest, position := ⟨0, 1⟩ }
  | _ => { rest := text, position := ⟨0, 0⟩ }

/-- Whether a bracket is open. -/
def inFlow (s : Scan) : Bool :=
  !s.outer.isEmpty

def moveTo (s : Scan) (rest : List Char) : Scan :=
  { s with rest, position := s.position.past (s.rest.take (s.rest.length - rest.length)) }

def emit (s : Scan) (token : Token) : Scan :=
  { s with tokens := token :: s.tokens }

def insert (s : Scan) (index : Nat) (token : Token) : Scan :=
  let later := s.tokens.length - index
  { s with tokens := s.tokens.take later ++ token :: s.tokens.drop later }

def allowKey (s : Scan) (allowed : Bool) : Scan :=
  { s with keyAllowed := allowed }

/-- The least indentation of what belongs to the innermost block collection. -/
def inside (s : Scan) : Nat :=
  match s.indents with
  | [] => 0
  | indent :: _ => indent + 1

/-- Closes the block collections whose indentation satisfies `p`, from the innermost one. -/
def closeWhile (s : Scan) (p : Nat → Bool) : Scan :=
  if s.inFlow then s
  else
    let (closed, indents) := s.indents.span p
    { s with indents, tokens := closed.map (fun _ => Token.blockEnd) ++ s.tokens }

/-- Opens a block collection at a column that is deeper than the innermost one, before the token
that follows the first `index` ones. -/
def openAt (s : Scan) (column index : Nat) (opening : Token) : Scan :=
  if s.inFlow || column < s.inside then s
  else { s.insert index opening with indents := column :: s.indents }

def openHere (s : Scan) (opening : Token) : Scan :=
  s.openAt s.position.column s.tokens.length opening

def dropCandidate (s : Scan) : Option Scan :=
  if s.candidate.any KeyCandidate.required then none else some { s with candidate := none }

/-- Makes the next token a candidate if a key may begin here. -/
def saveCandidate (s : Scan) : Option Scan :=
  if s.keyAllowed then do
    let required := !s.inFlow && s.indents.head? == some s.position.column
    let s ← s.dropCandidate
    some { s with candidate := some ⟨s.tokens.length, s.position, required⟩ }
  else some s

def dropStale (s : Scan) : Option Scan := do
  let candidate ← fresh s.candidate
  let outer ← s.outer.mapM fresh
  some { s with candidate, outer }
where
  fresh (candidate : Option KeyCandidate) : Option (Option KeyCandidate) :=
    match candidate with
    | none => some none
    | some k =>
      if !k.isStale s.position then some (some k) else if k.required then none else some none

/-- Passes over blanks, breaks and comments. A tab at the start of a line is no blank. Outside brackets
a key may begin on a new line. -/
def gap (inFlow : Bool) : (inComment keyAllowed : Bool) → List Char → Bool × List Char
  | _, keyAllowed, [] => (keyAllowed, [])
  | inComment, keyAllowed, c :: rest =>
    if isBreak c then gap inFlow false (keyAllowed || !inFlow) rest
    else if inComment then gap inFlow true keyAllowed rest
    else if c = ' ' ∨ (c = '\t' ∧ (inFlow ∨ !keyAllowed)) then gap inFlow false keyAllowed rest
    else if c = '#' then gap inFlow true keyAllowed rest
    else (keyAllowed, c :: rest)

def passGap (s : Scan) : Scan :=
  let (keyAllowed, rest) := gap s.inFlow false s.keyAllowed s.rest
  (s.moveTo rest).allowKey keyAllowed

def directive (s : Scan) (rest : List Char) : Option Scan := do
  let s ← (s.closeWhile fun _ => true).dropCandidate
  let (token, rest) ← Directive.read rest
  some (((s.allowKey false).emit token).moveTo rest)

def documentMark (s : Scan) (token : Token) : Option Scan := do
  let s ← (s.closeWhile fun _ => true).dropCandidate
  some (((s.allowKey false).emit token).moveTo (s.rest.drop startMark.length))

def openBracket (s : Scan) (token : Token) (rest : List Char) : Option Scan := do
  let s ← s.saveCandidate
  let s := { s with candidate := none, outer := s.candidate :: s.outer }
  some (((s.allowKey true).emit token).moveTo rest)

def closeBracket (s : Scan) (token : Token) (rest : List Char) : Option Scan := do
  let s ← s.dropCandidate
  let s :=
    match s.outer with
    | [] => s
    | candidate :: outer => { s with candidate, outer }
  some (((s.allowKey false).emit token).moveTo rest)

def flowEntry (s : Scan) (rest : List Char) : Option Scan := do
  let s ← s.dropCandidate
  some (((s.allowKey true).emit .flowEntry).moveTo rest)

def blockEntry (s : Scan) (rest : List Char) : Option Scan := do
  if s.inFlow || s.keyAllowed then
    let s ← (s.openHere .blockSequenceStart).dropCandidate
    some (((s.allowKey true).emit .blockEntry).moveTo rest)
  else none

def key (s : Scan) (rest : List Char) : Option Scan := do
  if s.inFlow || s.keyAllowed then
    let s ← (s.openHere .blockMappingStart).dropCandidate
    some (((s.allowKey (!s.inFlow)).emit .key).moveTo rest)
  else none

/-- Reads the colon of a value. The candidate, if there is one, is its key. -/
def value (s : Scan) (rest : List Char) : Option Scan :=
  match s.candidate with
  | some k =>
    let s := (s.insert k.index .key).openAt k.position.column k.index .blockMappingStart
    some ((({ s with candidate := none }.allowKey false).emit .value).moveTo rest)
  | none =>
    if s.inFlow || s.keyAllowed then
      let s := s.openHere .blockMappingStart
      some (((s.allowKey (!s.inFlow)).emit .value).moveTo rest)
    else none

/-- Reads an anchor, an alias, a tag or a quoted scalar, which may all begin a key. -/
def word {α : Type} (s : Scan) (token : α → Token) (found : Option (α × List Char)) :
    Option Scan := do
  let s ← s.saveCandidate
  let (a, rest) ← found
  some (((s.allowKey false).emit (token a)).moveTo rest)

/-- Reads a plain scalar. After one that ends with a line a key may begin. -/
def plain (s : Scan) : Option Scan := do
  let s ← s.saveCandidate
  let (text, gap, rest) ← Plain.read s.inFlow s.inside s.rest
  some (((s.allowKey gap.crossesLine).emit (.scalar .plain text)).moveTo rest)

def block (s : Scan) (style : ScalarStyle) (rest : List Char) : Option Scan := do
  let s ← s.dropCandidate
  let (text, rest) ← Block.read (style == .folded) s.inside rest
  some (((s.allowKey true).emit (.scalar style text)).moveTo rest)

def token (s : Scan) (c : Char) (rest : List Char) : Option Scan :=
  let atLineStart := s.position.column = 0
  if atLineStart ∧ c = '%' then s.directive rest
  else if atLineStart ∧ beginsWithMark startMark s.rest then s.documentMark .documentStart
  else if atLineStart ∧ beginsWithMark endMark s.rest then s.documentMark .documentEnd
  else if c = '[' then s.openBracket .flowSequenceStart rest
  else if c = '{' then s.openBracket .flowMappingStart rest
  else if c = ']' then s.closeBracket .flowSequenceEnd rest
  else if c = '}' then s.closeBracket .flowMappingEnd rest
  else if c = ',' then s.flowEntry rest
  else if c = '-' ∧ endsWord rest then s.blockEntry rest
  else if c = '?' ∧ (s.inFlow ∨ endsWord rest) then s.key rest
  else if c = ':' ∧ (s.inFlow ∨ endsWord rest) then s.value rest
  else if c = '*' then s.word .alias (anchorName rest)
  else if c = '&' then s.word .anchor (anchorName rest)
  else if c = '!' then s.word .tag (Tag.read s.inFlow rest)
  else if c = '|' ∧ !s.inFlow then s.block .literal rest
  else if c = '>' ∧ !s.inFlow then s.block .folded rest
  else if c = '\x27' then s.word (.scalar .singleQuoted) (Quoted.single {} rest)
  else if c = '"' then s.word (.scalar .doubleQuoted) (Quoted.double {} rest)
  else if Plain.canBegin s.inFlow c rest then s.plain
  else none

/-- Reads on to the end of the text. A token has at least one character. -/
def run (s : Scan) : Option (List Token) := do
  let t ← s.passGap.dropStale
  match t.rest with
  | [] => do
    let t ← (t.closeWhile fun _ => true).dropCandidate
    some t.tokens.reverse
  | c :: rest =>
    let next ← (t.closeWhile (t.position.column < ·)).token c rest
    if next.rest.length < s.rest.length then run next else none
termination_by s.rest.length

end Scan

def tokens? (text : List Char) : Option (List Token) :=
  (Scan.start text).run

end EnvTemplate.Yaml
