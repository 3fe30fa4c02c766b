/-! Character classes and case of the ASCII range. A character beyond ASCII belongs to none of
these classes and has no case here. -/
namespace EnvTemplate.Ascii

/-- Space, tab, line feed, form feed and carriage return. -/
def isWhitespace (c : Char) : Bool :=
  c == ' ' || c == '\t' || c == '\n' || c == '\x0c' || c == '\r'

/-- Characters that a scalar literal may be surrounded by. -/
def isLiteralBlank (c : Char) : Bool :=
  isWhitespace c || c == '\x00' || c == '\x0b'

/-- Characters that the `trim` modifier removes. -/
def isTrimmed (c : Char) : Bool :=
  c == ' ' || c == '\t' || c == '\n' || c == '\r' || c == '\x00' || c == '\x0b'

def hexValue? (c : Char) : Option Nat :=
  if c.isDigit then some (c.toNat - '0'.toNat)
  else if 'a' ≤ c ∧ c ≤ 'f' then some (c.toNat - 'a'.toNat + 10)
  else if 'A' ≤ c ∧ c ≤ 'F' then some (c.toNat - 'A'.toNat + 10)
  else none

def isHexDigit (c : Char) : Bool :=
  (hexValue? c).isSome

/-- Lower case, ASCII letters only. -/
def lower (text : List Char) : List Char :=
  text.map Char.toLower

end EnvTemplate.Ascii
