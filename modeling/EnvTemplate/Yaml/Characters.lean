import EnvTemplate.Text.Cut
import EnvTemplate.Text.Utf8
/-! The characters of YAML. Line endings of every kind but the two Unicode separators are read as
line feeds, so that the rules below this module know three breaks. -/
namespace EnvTemplate.Yaml

def isAllowed (c : Char) : Bool :=
  c == '\t' || c == '\n' || c == '\r' || c == '\u0085' || (' ' ≤ c && c ≤ '~') ||
    ('\u00A0' ≤ c && c != '\uFFFE' && c != '\uFFFF')

/-- Reads a carriage return, alone or before a line feed, and a next-line character as a line feed. -/
def normalBreaks : List Char → List Char
  | [] => []
  | '\r' :: '\n' :: rest => '\n' :: normalBreaks rest
  | c :: rest => (if c = '\r' ∨ c = '\u0085' then '\n' else c) :: normalBreaks rest

/-- The characters that bytes spell in UTF-8, if all of them are allowed. -/
def characters? (bytes : List UInt8) : Option (List Char) := do
  let text ← Utf8.decode? bytes
  if text.all isAllowed then some (normalBreaks text) else none

def isBreak (c : Char) : Bool :=
  c == '\n' || c == '\u2028' || c == '\u2029'

def isBlank (c : Char) : Bool :=
  c == ' ' || c == '\t'

def isSpace (c : Char) : Bool :=
  isBlank c || isBreak c

/-- Characters of anchors, tag handles and the names of directives. -/
def isWordChar (c : Char) : Bool :=
  c.isAlphanum || c == '_' || c == '-'

/-- Characters that open, close and separate collections between brackets. -/
def isFlowIndicator (c : Char) : Bool :=
  c == ',' || c == '[' || c == ']' || c == '{' || c == '}'

/-- Whether the text ends here or goes on with a blank or a break. -/
def endsWord (text : List Char) : Bool :=
  text.head?.all isSpace

def beginsWithMark (mark text : List Char) : Bool :=
  ((Text.afterFront? mark text).map endsWord).getD false

/-- What follows the rest of a line that has only blanks and a comment. -/
def endOfLine? (text : List Char) : Option (List Char) :=
  match text.dropWhile isBlank with
  | [] => some []
  | c :: rest =>
    if c = '#' then some ((rest.dropWhile (!isBreak ·)).drop 1)
    else if isBreak c then some rest
    else none

def startMark : List Char := ['-', '-', '-']

def endMark : List Char := ['.', '.', '.']

/-- Whether a text, at the start of a line, begins with the mark that starts or ends a document. -/
def beginsWithDocumentMark (text : List Char) : Bool :=
  beginsWithMark startMark text || beginsWithMark endMark text

/-- A place in the text, both counts from zero. -/
structure Position where
  line : Nat
  column : Nat

namespace Position

def after (p : Position) (c : Char) : Position :=
  if isBreak c then ⟨p.line + 1, 0⟩ else ⟨p.line, p.column + 1⟩

def past (p : Position) (text : List Char) : Position :=
  text.foldl after p

end Position

end EnvTemplate.Yaml
