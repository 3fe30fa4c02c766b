import EnvTemplate.Url.Percent
import EnvTemplate.Text.Ascii
/-! Paths of URLs as lists of segments. A single dot stands for the present place and two dots for the
one above; a dot may be written as its percent escape. -/
namespace EnvTemplate.Url

/-- A segment with the escapes of dots replaced. -/
def unescapeDots : List Char → List Char
  | '%' :: '2' :: c :: rest =>
    if c = 'e' ∨ c = 'E' then '.' :: unescapeDots rest else '%' :: '2' :: unescapeDots (c :: rest)
  | c :: rest => c :: unescapeDots rest
  | [] => []

def isSingleDot (segment : List Char) : Bool :=
  unescapeDots segment == ['.']

def isDoubleDot (segment : List Char) : Bool :=
  unescapeDots segment == ['.', '.']

/-- A letter and a colon or a bar. Such a segment is never taken back. -/
def isDriveLetter : List Char → Bool
  | [letter, mark] => letter.isAlpha && (mark == ':' || mark == '|')
  | _ => false

def shorten (path : List (List Char)) : List (List Char) :=
  match path.getLast? with
  | some last => if isDriveLetter last then path else path.dropLast
  | none => path

/-- Follows the segments of a path from a place. A path that ends in dots ends in an empty segment. -/
def follow (path : List (List Char)) : List (List Char) → List (List Char)
  | [] => path
  | segment :: rest =>
    let ending := if rest.isEmpty then [[]] else []
    if isDoubleDot segment then follow (shorten path ++ ending) rest
    else if isSingleDot segment then follow (path ++ ending) rest
    else follow (path ++ [segment]) rest

/-- The segments of a written path, encoded and with its dots resolved. -/
def segments (isSlash : Char → Bool) (written : List Char) : List (List Char) :=
  follow [] ((written.splitOnP isSlash).map (percentEncode inPathSet))

end EnvTemplate.Url
