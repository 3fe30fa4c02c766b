import EnvTemplate.Text.Ascii
import EnvTemplate.Text.Cut
import EnvTemplate.Url.Idna
import EnvTemplate.Url.Punycode
/-! Domain names in their ASCII form. -/
namespace EnvTemplate.Domain

def isForbidden (c : Char) : Bool :=
  c.toNat ≤ 0x20 || c.toNat == 0x7F || "%#/:<>?@[\\]^|".toList.contains c

def isAscii (text : List Char) : Bool :=
  text.all (·.toNat < 128)

def encodedMark : List Char := ['x', 'n', '-', '-']

/-- A label in its ASCII form, and the characters that it stands for. -/
structure Label where
  ascii : List Char
  meaning : List Char

/-- A label in normal form. One that is marked as encoded must be the encoding of a valid label beyond
ASCII. -/
def Label.read? (label : List Char) : Option Label :=
  match Text.afterFront? encodedMark label with
  | some encoding => do
    let meaning ← if isAscii encoding then Punycode.decode? encoding else none
    if !isAscii meaning && Idna.normalize? meaning == some meaning && Idna.isLabel meaning then
      some ⟨label, meaning⟩
    else none
  | none =>
    if isAscii label then some ⟨label, label⟩
    else if Idna.isLabel label then some ⟨encodedMark ++ Punycode.encode label, label⟩
    else none

/-- The ASCII form of a domain name that has labels beyond ASCII, as they are or encoded. -/
def encoded? (domain : List Char) : Option (List Char) := do
  let labels ← ((← Idna.normalize? domain).splitOn '.').mapM Label.read?
  let meanings := labels.map Label.meaning
  if meanings.any Idna.isBidi && !meanings.all Idna.hasOneDirection then none
  else some (List.intercalate ['.'] (labels.map Label.ascii))

/-- Whether folding letters is all that a name needs. -/
def isPlain (domain : List Char) : Bool :=
  isAscii domain && !((Ascii.lower domain).splitOn '.').any encodedMark.isPrefixOf

def toAscii? (domain : List Char) : Option (List Char) := do
  let ascii ← if isPlain domain then some (Ascii.lower domain) else encoded? domain
  if ascii.any isForbidden then none else some ascii

end EnvTemplate.Domain
