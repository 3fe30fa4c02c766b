import EnvTemplate.Entries
import EnvTemplate.Number.Binary64
import EnvTemplate.Text.Utf8
/-! The dynamically typed value that a chain of steps works on. -/
namespace EnvTemplate

/-- What a case of an enum stands for. -/
inductive Backing
  | int (n : Int64)
  | string (s : String)
deriving DecidableEq

structure EnumCase where
  enumType : String
  name : String
  backing : Backing
deriving DecidableEq

inductive Value
  | null
  | bool (b : Bool)
  | int (n : Int64)
  | float (x : Binary64)
  | string (s : String)
  /-- Bytes that are not the UTF-8 encoding of a text. -/
  | bytes (bs : List UInt8)
  | sequence (items : List Value)
  | mapping (entries : List (String × Value))
  | enumCase (case : EnumCase)
deriving Inhabited

def Backing.toValue : Backing → Value
  | .int n => .int n
  | .string s => .string s

/-- Whether a value has the type and the content of a backing. -/
def Backing.admits : Backing → Value → Bool
  | .int n, .int m => n == m
  | .string s, .string t => s == t
  | _, _ => false

namespace Value

/-- Bytes as a value: the text that they encode, if they encode one. -/
def ofBytes (bs : List UInt8) : Value :=
  match Utf8.decode? bs with
  | some text => .string (String.ofList text)
  | none => .bytes bs

def typeName : Value → String
  | .null => "null"
  | .bool _ => "bool"
  | .int _ => "int"
  | .float _ => "float"
  | .string _ => "string"
  | .bytes _ => "bytes"
  | .sequence _ => "sequence"
  | .mapping _ => "mapping"
  | .enumCase _ => "enum"

/-- Booleans, numbers, strings and bytes are scalars. -/
def isScalar : Value → Bool
  | .bool _ | .int _ | .float _ | .string _ | .bytes _ => true
  | .null | .sequence _ | .mapping _ | .enumCase _ => false

def string? : Value → Option String
  | .string s => some s
  | _ => none

end EnvTemplate.Value
