import EnvTemplate.Text.Cut
import EnvTemplate.Url.Host
import EnvTemplate.Url.Path
/-! Absolute URLs, read as browsers read them: components come out normalised and percent-encoded, and
a port that is the default of its scheme is left out. -/
namespace EnvTemplate

/-- A URL by its components. A URL without a host has none of the authority's components; a path is
the text after its first slash, or the opaque text after the scheme. -/
structure Url where
  scheme : List Char
  username : List Char := []
  password : Option (List Char) := none
  host : Option Url.Host := none
  port : Option Nat := none
  path : List Char := []
  query : Option (List Char) := none
  fragment : Option (List Char) := none

namespace Url

def defaultPort? (scheme : List Char) : Option Nat :=
  if scheme = "http".toList ∨ scheme = "ws".toList then some 80
  else if scheme = "https".toList ∨ scheme = "wss".toList then some 443
  else if scheme = "ftp".toList then some 21
  else none

def isFileScheme (scheme : List Char) : Bool :=
  scheme == "file".toList

def isSpecial (scheme : List Char) : Bool :=
  (defaultPort? scheme).isSome || isFileScheme scheme

/-- A slash, or in a special URL a backslash. -/
def isSlash (special : Bool) (c : Char) : Bool :=
  c == '/' || special && c == '\\'

def endsAuthority (special : Bool) (c : Char) : Bool :=
  isSlash special c || c == '?' || c == '#'

def endsPath (c : Char) : Bool :=
  c == '?' || c == '#'

/-- Drops controls and spaces at the ends, and tabs and line ends everywhere. -/
def clean (text : List Char) : List Char :=
  (Text.strip (·.toNat ≤ 0x20) text).filter fun c => c != '\t' && c != '\n' && c != '\r'

def isSchemeChar (c : Char) : Bool :=
  c.isAlphanum || c == '+' || c == '-' || c == '.'

/-- The scheme in lower case, and what follows its colon. -/
def scheme? (text : List Char) : Option (List Char × List Char) :=
  match text.span isSchemeChar with
  | (letter :: more, ':' :: rest) =>
    if letter.isAlpha then some (Ascii.lower (letter :: more), rest) else none
  | _ => none

/-- The query and the fragment in what follows a path. -/
def queryAndFragment (special : Bool) (tail : List Char) :
    Option (List Char) × Option (List Char) :=
  let fragment (rest : List Char) := rest.drop 1 |> percentEncode inFragmentSet
  match tail with
  | [] => (none, none)
  | '?' :: rest =>
    let (query, after) := rest.span (· != '#')
    (some (percentEncode (inQuerySet special) query),
      if after.isEmpty then none else some (fragment after))
  | rest => (none, some (fragment rest))

/-- A user name and a password before the last at sign of an authority. An empty password is none. -/
def credentials (userinfo : List Char) : List Char × Option (List Char) :=
  match Text.cut ':' userinfo with
  | none => (percentEncode inUserinfoSet userinfo, none)
  | some (user, password) =>
    (percentEncode inUserinfoSet user,
      if password.isEmpty then none else some (percentEncode inUserinfoSet password))

/-- The host as it is written, and what follows it: a colon outside brackets ends it. -/
def writtenHost : (bracketed : Bool) → List Char → List Char × List Char
  | _, [] => ([], [])
  | bracketed, c :: rest =>
    if c = ':' ∧ !bracketed then ([], c :: rest)
    else
      let (host, after) := writtenHost (if c = '[' then true else if c = ']' then false else bracketed) rest
      (c :: host, after)

/-- The port after its colon, and what follows it: nothing, or a backslash that starts the path. -/
def port? (scheme : List Char) (text : List Char) : Option (Option Nat × List Char) :=
  let (digits, rest) := text.span Char.isDigit
  let n := Nat.ofDigitChars 10 digits 0
  if 65535 < n then none
  else if rest.isEmpty || rest.head? == some '\\' then
    some (if digits.isEmpty || defaultPort? scheme == some n then none else some n, rest)
  else none

/-- The path that starts with a slash, and a special URL's path that may lack it. -/
def pathText (special : Bool) (written : List Char) : List Char :=
  let inner :=
    match written with
    | c :: rest => if isSlash special c then rest else written
    | [] => []
  List.intercalate ['/'] (segments (isSlash special) inner)

def hostOf? (special : Bool) (written : List Char) : Option (Option Host) :=
  (if special then Host.ofSpecial? written else Host.ofOpaque? written).map fun host =>
    if written.isEmpty then none else some host

def portAfter? (scheme : List Char) : List Char → Option (Option Nat × List Char)
  | [] => some (none, [])
  | _ :: text => port? scheme text

def withAuthority (scheme userinfo : List Char) (host : Option Host) (port : Option Nat)
    (text : List Char) : Url :=
  let special := isSpecial scheme
  let (username, password) := credentials userinfo
  let (path, tail) := text.span (!endsPath ·)
  let (query, fragment) := queryAndFragment special tail
  { scheme, username, password, host, port
    path := if special || !path.isEmpty then pathText special path else []
    query, fragment }

/-- A URL with an authority, given what follows the two slashes. -/
def ofAuthority? (scheme : List Char) (text : List Char) : Option Url :=
  let (authority, tail) := text.span (!endsAuthority (isSpecial scheme) ·)
  let (userinfo, hostPort) := (Text.cutLast '@' authority).getD ([], authority)
  let (written, afterHost) := writtenHost false hostPort
  if userinfo.isEmpty ∧ authority.head? = some '@' ∧ hostPort.isEmpty ∧ !tail.isEmpty then none
  else
    match hostOf? (isSpecial scheme) written, portAfter? scheme afterHost with
    | some host, some (port, afterPort) =>
      let url := withAuthority scheme userinfo host port (afterPort ++ tail)
      if host.isNone ∧ (!afterHost.isEmpty ∨ !url.username.isEmpty ∨ url.password.isSome) then none
      else some url
    | _, _ => none

def ofPath (scheme : List Char) (text : List Char) : Url :=
  let special := isSpecial scheme
  let (path, tail) := text.span (!endsPath ·)
  let (query, fragment) := queryAndFragment special tail
  { scheme
    path :=
      if special || path.head? == some '/' then pathText special path
      else percentEncode inControls path
    query, fragment }

/-- The host of a file URL. The local host is none. -/
def fileHost? (written : List Char) : Option (Option Host) :=
  if written.isEmpty then some none
  else
    (Host.ofSpecial? written).map fun host =>
      if host = .domain "localhost".toList then none else some host

/-- A file URL with two slashes, given what follows them. A drive letter is no host; before a path that
starts with a drive letter no host stands. -/
def ofFileHost? (scheme : List Char) (text : List Char) : Option Url :=
  let (written, tail) := text.span (!endsAuthority true ·)
  if isDriveLetter written then some (ofPath scheme text)
  else
    (fileHost? written).map fun host =>
      let (path, _) := tail.span (!endsPath ·)
      let inner := segments (isSlash true) (path.drop 1)
      let drive := inner.head?.any isDriveLetter
      { ofPath scheme tail with
        host := if drive then none else host
        path := List.intercalate ['/'] (inner.dropWhile List.isEmpty) }

def parse? (text : List Char) : Option Url := do
  let (scheme, rest) ← scheme? (clean text)
  if isFileScheme scheme then
    match rest with
    | a :: b :: after =>
      if isSlash true a && isSlash true b then ofFileHost? scheme after
      else some (ofPath scheme rest)
    | _ => some (ofPath scheme rest)
  else if isSpecial scheme then ofAuthority? scheme (rest.dropWhile (isSlash true))
  else
    match rest with
    | '/' :: '/' :: after => ofAuthority? scheme after
    | _ => some (ofPath scheme rest)

end Url

end EnvTemplate
