import EnvTemplate.Settings.Json
import EnvTemplate.Settings.Yaml
import EnvTemplate.Unicode.WhiteSpace
/-! Loading settings from a file and overriding their limit. -/
namespace EnvTemplate.Settings

def ofBytes (format : DocumentFormat) (bytes : List UInt8) : Except DocumentError Settings :=
  match format with
  | .json => (ofJsonBytes bytes).mapError .json
  | .yaml => (ofYamlBytes? bytes).elim (.error .yaml) .ok

/-- The settings in a file, the default ones if there is no file. -/
def load (tree : FileTree) (path : String) : Except SettingsError Settings :=
  if !tree.pathExists path then .ok {}
  else
    match DocumentFormat.ofPath? path with
    | none => .error (.unsupportedFormat path)
    | some format =>
      match tree.read path with
      | .error error => .error (.io error)
      | .ok bytes => (ofBytes format bytes).mapError .malformed

/-- The limit that a text spells between blanks: digits after an optional plus sign, below `2 ^ 64`. -/
def limitOfText? (text : String) : Option Nat :=
  let stripped := Text.strip Unicode.isWhiteSpace text.toList
  let digits := if stripped.head? = some '+' then stripped.drop 1 else stripped
  (Decimal.toNat? digits).bind fun n => if n < Nat.pow 2 64 then some n else none

/-- Settings with the limit that the override variable gives, if it is defined. -/
def override (s : Settings) (lookupVariable? : String → Option String) :
    Except SettingsError Settings :=
  match lookupVariable? overrideVariable with
  | none => .ok s
  | some text =>
    match limitOfText? text with
    | some n => .ok { s with maxNestingDepth := n }
    | none => .error (.invalidOverride overrideVariable text)

def loadWithOverride (tree : FileTree) (path : String) (lookupVariable? : String → Option String) :
    Except SettingsError Settings := do
  let s ← load tree path
  s.override lookupVariable?

end EnvTemplate.Settings
