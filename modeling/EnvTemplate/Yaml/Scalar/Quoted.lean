import EnvTemplate.Text.Ascii
import EnvTemplate.Yaml.Scalar.Gap
/-! Scalars between quotes. Single quotes know one escape, a quote written twice; double quotes have
escapes with a backslash. -/
namespace EnvTemplate.Yaml.Quoted

/-- Whether a line in quotes begins with the mark of a document, which it must not. -/
def isMarked (gap : Gap) (text : List Char) : Bool :=
  gap.endsLine && beginsWithDocumentMark text

/-- Reads on to the closing single quote after a gap. Gives the text and what is left. -/
def single (gap : Gap) : List Char → Option (List Char × List Char)
  | [] => none
  | c :: rest =>
    if isSpace c then single (gap.push c) rest
    else if isMarked gap (c :: rest) then none
    else do
      let (text, left) ←
        if c = '\x27' then
          match rest with
          | '\x27' :: rest => do
            let (text, left) ← single {} rest
            some ('\x27' :: text, left)
          | _ => some ([], rest)
        else do
          let (text, left) ← single {} rest
          some (c :: text, left)
      some (gap.text ++ text, left)

def escape? : Char → Option Char
  | '0' => some '\x00'
  | 'a' => some '\x07'
  | 'b' => some '\x08'
  | 't' => some '\t'
  | '\t' => some '\t'
  | 'n' => some '\n'
  | 'v' => some '\x0b'
  | 'f' => some '\x0c'
  | 'r' => some '\r'
  | 'e' => some '\x1b'
  | ' ' => some ' '
  | '"' => some '"'
  | '/' => some '/'
  | '\\' => some '\\'
  | 'N' => some '\u0085'
  | '_' => some '\u00A0'
  | 'L' => some '\u2028'
  | 'P' => some '\u2029'
  | _ => none

/-- How many hexadecimal digits follow a backslash and a letter. -/
def codeLength? : Char → Option Nat
  | 'x' => some 2
  | 'u' => some 4
  | 'U' => some 8
  | _ => none

/-- The character whose code point so many hexadecimal digits at the front of a text are. -/
def codePoint? (length : Nat) (text : List Char) : Option Char := do
  let digits ← (text.take length).mapM Ascii.hexValue?
  let n := digits.foldl (fun n d => n * 16 + d) 0
  if digits.length = length ∧ n.isValidChar then some (.ofNat n) else none

/-- Reads on to the closing double quote after a gap. Gives the text and what is left. -/
def double (gap : Gap) : List Char → Option (List Char × List Char)
  | [] => none
  | c :: rest =>
    if isSpace c then double (gap.push c) rest
    else if isMarked gap (c :: rest) then none
    else do
      let (text, left) ←
        if c = '"' then some ([], rest)
        else if c = '\\' then
          match rest with
          | [] => none
          | e :: rest =>
            if isBreak e then double { afterEscape := true } rest
            else
              match escape? e, codeLength? e with
              | some d, _ => do
                let (text, left) ← double {} rest
                some (d :: text, left)
              | none, some length => do
                let d ← codePoint? length rest
                let (text, left) ← double {} (rest.drop length)
                some (d :: text, left)
              | none, none => none
        else do
          let (text, left) ← double {} rest
          some (c :: text, left)
      some (gap.text ++ text, left)
termination_by text => text.length

end EnvTemplate.Yaml.Quoted
