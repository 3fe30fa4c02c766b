import EnvTemplate.Unicode.GraphemeExtend
import EnvTemplate.Unicode.Printable
/-! Text quoted for a diagnostic: between double quotes, with escapes for what has no visible form of
its own. -/
namespace EnvTemplate.Quoted

/-- The escape of a code point: its hexadecimal number between braces. -/
def escape (c : Char) : List Char :=
  '\\' :: 'u' :: '{' :: (Nat.toDigits 16 c.toNat ++ ['}'])

def encodeChar (c : Char) : List Char :=
  if c = '\x00' then ['\\', '0']
  else if c = '\t' then ['\\', 't']
  else if c = '\r' then ['\\', 'r']
  else if c = '\n' then ['\\', 'n']
  else if c = '\\' ∨ c = '"' then ['\\', c]
  else if Unicode.isGraphemeExtend c then escape c
  else if Unicode.isPrintable c then [c]
  else escape c

def encode (text : List Char) : List Char :=
  '"' :: (text.flatMap encodeChar ++ ['"'])

end EnvTemplate.Quoted
