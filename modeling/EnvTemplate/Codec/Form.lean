import EnvTemplate.Text.Ascii
import EnvTemplate.Text.Utf8
/-! The `application/x-www-form-urlencoded` format and percent escapes. -/
namespace EnvTemplate.Form

def hexDigit (n : Nat) : Char :=
  (Nat.digitChar n).toUpper

def escape (b : UInt8) : List Char :=
  ['%', hexDigit (b.toNat / 16), hexDigit (b.toNat % 16)]

/-- Characters that stand for themselves: letters, digits and `*`, `-`, `.`, `_`. -/
def isPlain (c : Char) : Bool :=
  c.isAlphanum || c == '*' || c == '-' || c == '.' || c == '_'

/-- What a character becomes. A space becomes a plus sign. -/
def encodeChar (c : Char) : List Char :=
  if isPlain c then [c]
  else if c = ' ' then ['+']
  else (Utf8.encodeChar c).flatMap escape

def encode (text : List Char) : List Char :=
  text.flatMap encodeChar

def hexValue? (b : UInt8) : Option Nat :=
  Ascii.hexValue? (.ofNat b.toNat)

/-- Replaces percent escapes by the bytes they stand for. A percent sign that two hexadecimal digits
do not follow stands for itself. -/
def unescape : List UInt8 → List UInt8
  | 0x25 :: a :: b :: rest =>
    match hexValue? a, hexValue? b with
    | some m, some n => .ofNat (m * 16 + n) :: unescape rest
    | _, _ => 0x25 :: unescape (a :: b :: rest)
  | b :: rest => b :: unescape rest
  | [] => []

def unescapeText (text : List Char) : List Char :=
  Utf8.decodeLossy (unescape (Utf8.encode text))

def decode (component : List Char) : List Char :=
  unescapeText (component.map fun c => if c = '+' then ' ' else c)

/-- The name and value of one item: the parts before and after its first equals sign. -/
def decodeItem (item : List Char) : List Char × List Char :=
  (decode (item.takeWhile (· != '=')), decode ((item.dropWhile (· != '=')).drop 1))

/-- The pairs of an encoded form. Empty items are skipped. -/
def pairs (form : List Char) : List (List Char × List Char) :=
  ((form.splitOn '&').filter (!·.isEmpty)).map decodeItem

end EnvTemplate.Form
