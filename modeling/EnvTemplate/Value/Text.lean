import EnvTemplate.Json.Writer
import EnvTemplate.Value
/-! The text of values and their exchange with JSON. -/
namespace EnvTemplate

namespace Value

/-- The text of a scalar. True is `1` and false the empty text; bytes are decoded lossily. -/
def scalarText? : Value → Option String
  | .bool true => some "1"
  | .bool false => some ""
  | .int n => some (String.ofList (Decimal.ofInt n.toInt))
  | .float x => some (String.ofList x.toPlainText)
  | .string s => some s
  | .bytes bs => some (String.ofList (Utf8.decodeLossy bs))
  | .null | .sequence _ | .mapping _ | .enumCase _ => none

mutual

/-- The JSON document of a value. Bytes become lossy text, an enum case its backing, and a float
that is not finite `null`. -/
def toJson : Value → Json
  | .null => .null
  | .bool b => .bool b
  | .int n => .integer n.toInt
  | .float x => if x.isFinite then .float x else .null
  | .string s => .string s
  | .bytes bs => .string (String.ofList (Utf8.decodeLossy bs))
  | .sequence items => .array (itemsToJson items)
  | .mapping entries => .object (entriesToJson entries)
  | .enumCase case =>
    match case.backing with
    | .int n => .integer n.toInt
    | .string s => .string s

def itemsToJson : List Value → List Json
  | [] => []
  | item :: rest => toJson item :: itemsToJson rest

def entriesToJson : List (String × Value) → List (String × Json)
  | [] => []
  | (key, value) :: rest => (key, toJson value) :: entriesToJson rest

end

def jsonText (v : Value) : String :=
  v.toJson.toText

/-- The text of any value: a scalar's own text, nothing for `null`, the backing of an enum case,
and JSON for sequences and mappings. -/
def toText (v : Value) : String :=
  match v with
  | .null => ""
  | .enumCase case => (case.backing.toValue.scalarText?).getD ""
  | .sequence _ | .mapping _ => v.jsonText
  | scalar => scalar.scalarText?.getD ""

mutual

/-- The value of a JSON document. An integer beyond the signed 64-bit range becomes a float. -/
def ofJson : Json → Value
  | .null => .null
  | .bool b => .bool b
  | .integer n =>
    match Decimal.int64? n with
    | some m => .int m
    | none => .float (.ofInt n)
  | .float x => .float x
  | .string s => .string s
  | .array items => .sequence (itemsOfJson items)
  | .object members => .mapping (entriesOfJson members)

def itemsOfJson : List Json → List Value
  | [] => []
  | item :: rest => ofJson item :: itemsOfJson rest

def entriesOfJson : List (String × Json) → List (String × Value)
  | [] => []
  | (key, value) :: rest => (key, ofJson value) :: entriesOfJson rest

end

end EnvTemplate.Value
