/-! The closed set of operations that a heap may name. -/
namespace EnvTemplate

/-- How an operation uses the parts that follow it in a heap. -/
inductive Arity
  /-- Takes no argument. -/
  | lonely
  /-- Takes the next part as its name when that part is the last one. -/
  | nameBearing
  /-- Takes the next part, which must be the last one. -/
  | mandatoryArgument
  /-- Takes the next part and needs a source and its name after that. -/
  | dualArgument
deriving DecidableEq

inductive Modifier
  | base64
  | bool
  | const
  | direct
  | enum
  | env
  | file
  | float
  | int
  | json
  | key
  | not
  | queryString
  | require
  | strcsv
  | string
  | trim
  | url
  | urlencode
deriving DecidableEq

namespace Modifier

/-- Every modifier, in the alphabetical order of tokens. -/
def all : List Modifier :=
  [base64, bool, const, direct, enum, env, file, float, int, json, key, not, queryString, require,
    strcsv, string, trim, url, urlencode]

/-- The part of a heap that names a modifier. -/
def token : Modifier → String
  | base64 => "base64"
  | bool => "bool"
  | const => "const"
  | direct => "direct"
  | enum => "enum"
  | env => "env"
  | file => "file"
  | float => "float"
  | int => "int"
  | json => "json"
  | key => "key"
  | not => "not"
  | queryString => "query_string"
  | require => "require"
  | strcsv => "strcsv"
  | string => "string"
  | trim => "trim"
  | url => "url"
  | urlencode => "urlencode"

def ofToken? (part : String) : Option Modifier :=
  all.find? (·.token == part)

def arity : Modifier → Arity
  | const | env | file | require => .nameBearing
  | direct => .mandatoryArgument
  | enum | key => .dualArgument
  | base64 | bool | float | int | json | not | queryString | strcsv | string | trim | url
  | urlencode => .lonely

/-- Sources may stand right before the last part of a heap. -/
def isSource (m : Modifier) : Bool :=
  m.arity = .nameBearing || m.arity = .mandatoryArgument

theorem mem_all (m : Modifier) : m ∈ all := by
  cases m <;> decide

theorem ofToken?_token (m : Modifier) : ofToken? m.token = some m := by
  cases m <;> decide

theorem token_of_ofToken? {part : String} {m : Modifier} (h : ofToken? part = some m) :
    m.token = part := by
  simpa using List.find?_some h

end EnvTemplate.Modifier
