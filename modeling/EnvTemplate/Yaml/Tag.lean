import EnvTemplate.Text.Ascii
import EnvTemplate.Yaml.Characters
import EnvTemplate.Yaml.Token
/-! Names in YAML: tags, anchors and directives. Each reader starts after the character that announces
the name and gives what is left after it. -/
namespace EnvTemplate.Yaml

def anchorName (text : List Char) : Option (List Char × List Char) :=
  let (name, rest) := text.span isWordChar
  let ends := endsWord rest || rest.head?.any ['?', ':', ',', ']', '}', '%', '@', '\x60'].contains
  if !name.isEmpty && ends then some (name, rest) else none

namespace Tag

def isTagChar (verbatim : Bool) (c : Char) : Bool :=
  isWordChar c ||
    [';', '/', '?', ':', '@', '&', '=', '+', '$', '.', '!', '~', '*', '\x27', '(', ')'].contains c ||
    (verbatim && (c == ',' || c == '[' || c == ']'))

/-- How many more bytes an encoded character has after its first one. -/
def moreBytes? (first : Nat) : Option Nat :=
  if first < 0x80 then some 0
  else if first < 0xC0 then none
  else if first < 0xE0 then some 1
  else if first < 0xF0 then some 2
  else if first < 0xF8 then some 3
  else none

/-- Reads the characters of a tag as bytes. An escape gives one byte; so many bytes of an encoded
character are still `missing`. -/
def bytes (verbatim : Bool) (missing : Nat) : List Char → Option (List UInt8 × List Char)
  | '%' :: a :: b :: rest => do
    let byte := (← Ascii.hexValue? a) * 16 + (← Ascii.hexValue? b)
    let missing ←
      if missing = 0 then moreBytes? byte
      else if byte / 64 = 2 then some (missing - 1)
      else none
    let (others, left) ← bytes verbatim missing rest
    some (.ofNat byte :: others, left)
  | text =>
    if missing ≠ 0 then none
    else
      match text with
      | [] => some ([], [])
      | c :: rest =>
        if c = '%' then none
        else if isTagChar verbatim c then do
          let (others, left) ← bytes verbatim 0 rest
          some (.ofNat c.toNat :: others, left)
        else some ([], c :: rest)

/-- Reads the characters of a tag, at least one. -/
def someBytes (verbatim : Bool) (text : List Char) : Option (List UInt8 × List Char) := do
  let (found, left) ← bytes verbatim 0 text
  if found.isEmpty then none else some (found, left)

/-- Reads word characters and an exclamation mark after a first one, as far as they go. -/
def handle (text : List Char) : List Char × List Char :=
  let (word, rest) := text.span isWordChar
  match rest with
  | '!' :: rest => ('!' :: (word ++ ['!']), rest)
  | _ => ('!' :: word, rest)

/-- Reads a tag after its exclamation mark: `<…>`, a handle with a suffix, or a local tag. -/
def written (text : List Char) : Option (WrittenTag × List Char) :=
  match text with
  | '<' :: rest => do
    match ← someBytes true rest with
    | (suffix, '>' :: left) => some (⟨[], suffix⟩, left)
    | _ => none
  | _ => do
    let (handle, rest) := handle text
    if 2 ≤ handle.length ∧ handle.getLast? = some '!' then
      let (suffix, left) ← someBytes false rest
      some (⟨handle, suffix⟩, left)
    else
      let (others, left) ← bytes false 0 rest
      match Utf8.encode (handle.drop 1) ++ others with
      | [] => some (⟨[], utf8 "!"⟩, left)
      | suffix => some (⟨['!'], suffix⟩, left)

/-- Reads a tag with the check that it ends there. -/
def read (inFlow : Bool) (text : List Char) : Option (WrittenTag × List Char) := do
  let (tag, left) ← written text
  if endsWord left || (inFlow && left.head? == some ',') then some (tag, left) else none

end Tag

namespace Directive

/-- Reads a number of at most nine digits. -/
def number (text : List Char) : Option (Nat × List Char) :=
  let (digits, rest) := text.span Char.isDigit
  if digits.isEmpty || 9 < digits.length then none else some (Nat.ofDigitChars 10 digits 0, rest)

def version (text : List Char) : Option (Token × List Char) := do
  let (major, rest) ← number (text.dropWhile isBlank)
  match rest with
  | '.' :: rest => do
    let (minor, rest) ← number rest
    some (.versionDirective major minor, rest)
  | _ => none

def shorthand (text : List Char) : Option (Token × List Char) := do
  match text.dropWhile isBlank with
  | '!' :: rest => do
    let (handle, rest) := Tag.handle rest
    if handle.getLast? ≠ some '!' ∨ !rest.head?.any isBlank then none
    else do
      let (beginning, rest) ← Tag.someBytes true (rest.dropWhile isBlank)
      if endsWord rest then some (.tagDirective handle beginning, rest) else none
  | _ => none

/-- Reads a directive after its percent sign. -/
def read (text : List Char) : Option (Token × List Char) := do
  let (name, rest) := text.span isWordChar
  let (token, rest) ←
    if !endsWord rest then none
    else if name = "YAML".toList then version rest
    else if name = "TAG".toList then shorthand rest
    else none
  some (token, ← endOfLine? rest)

end Directive

end EnvTemplate.Yaml
