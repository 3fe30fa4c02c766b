/-! The tokens of YAML. Those that open and close block collections have no characters of their own:
indentation makes them. -/
namespace EnvTemplate.Yaml

inductive ScalarStyle
  | plain
  | singleQuoted
  | doubleQuoted
  | literal
  | folded
deriving DecidableEq

/-- A tag as it is written: a handle, which stands for some beginning, and the rest. A tag without
handle is complete. -/
structure WrittenTag where
  handle : List Char
  suffix : List UInt8
deriving DecidableEq

inductive Token
  | versionDirective (major minor : Nat)
  | tagDirective (handle : List Char) (beginning : List UInt8)
  | documentStart
  | documentEnd
  | blockSequenceStart
  | blockMappingStart
  | blockEnd
  | flowSequenceStart
  | flowSequenceEnd
  | flowMappingStart
  | flowMappingEnd
  | blockEntry
  | flowEntry
  | key
  | value
  | alias (name : List Char)
  | anchor (name : List Char)
  | tag (written : WrittenTag)
  | scalar (style : ScalarStyle) (text : List Char)
deriving DecidableEq

end EnvTemplate.Yaml
