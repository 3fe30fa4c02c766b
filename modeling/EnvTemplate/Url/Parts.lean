import EnvTemplate.Url
import EnvTemplate.Value
/-! The parts of an absolute URL as a mapping. Only a URL with a scheme and a host has parts, and its
text must be free of stray blanks, controls and backslashes. -/
namespace EnvTemplate.Url

inductive Refusal
  | invalid
  | missingHost
  | backslash
  | blanks
deriving DecidableEq

def Refusal.reason : Refusal → String
  | .invalid => "Invalid URL in env var"
  | .missingHost => "Invalid URL in env var: scheme and host expected"
  | .backslash => "Invalid URL in env var: backslashes are not allowed"
  | .blanks =>
    "Invalid URL in env var: leading/trailing ASCII control characters or whitespaces are not allowed"

/-- Whether a backslash stands before the query and the fragment. -/
def hasBackslash (text : List Char) : Bool :=
  (text.takeWhile (!endsPath ·)).contains '\\'

/-- Whether a control or a space stands at an end, or a tab or a line end anywhere. -/
def hasBlanks (text : List Char) : Bool :=
  text.head?.any (·.toNat ≤ 0x20) || text.getLast?.any (·.toNat ≤ 0x20) ||
    text.any fun c => c == '\r' || c == '\n' || c == '\t'

/-- Whether a port that is not empty stands behind the last colon, which is not one in brackets. -/
def endsWithPort (hostPort : List Char) : Bool :=
  let afterBrackets := ((Text.cutLast ']' hostPort).map Prod.snd).getD hostPort
  (Text.cutLast ':' afterBrackets).any fun (_, port) => !port.isEmpty

/-- Whether the authority that a text starts with writes a port. -/
def opensWithPort (text : List Char) : Bool :=
  let authority := text.takeWhile fun c => c != '/' && c != '?' && c != '#'
  endsWithPort (((Text.cutLast '@' authority).map Prod.snd).getD authority)

/-- Whether a text writes a port, be it the default of its scheme. The authority is looked for behind
the first colon that two slashes follow. -/
def writesPort (text : List Char) : Bool :=
  opensWithPort (((Text.cutPattern "://".toList text).map Prod.snd).getD text)

/-- The port of a URL; a default one counts only if the text writes a port. -/
def explicitPort? (url : Url) (text : List Char) : Option Nat :=
  match url.port with
  | some n => some n
  | none => if writesPort text then defaultPort? url.scheme else none

/-- A user name is there if it is not empty or a password follows it. -/
def user? (url : Url) : Option (List Char) :=
  if url.username.isEmpty && url.password.isNone then none
  else some (Form.unescapeText url.username)

def textOrNull : Option (List Char) → Value
  | some text => .string (String.ofList text)
  | none => .null

def parts (url : Url) (host : List Char) (text : List Char) : Entries Value :=
  [("scheme", .string (String.ofList url.scheme)),
    ("host", .string (String.ofList host)),
    ("port",
      match url.explicitPort? text with
      | some n => .int (.ofNat n)
      | none => .null),
    ("user", textOrNull url.user?),
    ("pass", textOrNull (url.password.map Form.unescapeText)),
    ("path", .string (String.ofList url.path)),
    ("query", textOrNull url.query),
    ("fragment", textOrNull url.fragment)]

def decompose (text : List Char) : Except Refusal (Entries Value) :=
  match parse? text with
  | none => .error .invalid
  | some url =>
    match url.host with
    | none => .error .missingHost
    | some host =>
      if hasBackslash text then .error .backslash
      else if hasBlanks text then .error .blanks
      else .ok (parts url host.text text)

end EnvTemplate.Url
