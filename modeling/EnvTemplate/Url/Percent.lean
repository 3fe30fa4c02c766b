import EnvTemplate.Codec.Form
/-! The sets of characters that are percent-encoded in the components of a URL. Every set holds the
controls and all characters beyond ASCII. -/
namespace EnvTemplate.Url

def inControls (c : Char) : Bool :=
  c.toNat < 0x20 || 0x7F ≤ c.toNat

def inFragmentSet (c : Char) : Bool :=
  inControls c || " \"<>`".toList.contains c

def inPathSet (c : Char) : Bool :=
  inFragmentSet c || "#?\x7b\x7d".toList.contains c

def inUserinfoSet (c : Char) : Bool :=
  inPathSet c || "/:;=@[\\]^|".toList.contains c

/-- In special URLs a query encodes the single quote too. -/
def inQuerySet (special : Bool) (c : Char) : Bool :=
  inControls c || " \"#<>".toList.contains c || special && c == '\x27'

/-- Percent-encodes the characters of a set. Escapes that are there already are kept. -/
def percentEncode (inSet : Char → Bool) (text : List Char) : List Char :=
  text.flatMap fun c => if inSet c then (Utf8.encodeChar c).flatMap Form.escape else [c]

end EnvTemplate.Url
