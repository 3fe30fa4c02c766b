import EnvTemplate.FileTree
import EnvTemplate.Json.Reader
import EnvTemplate.Value.Text
import EnvTemplate.World
import EnvTemplate.Yaml.Json
/-! Documents in files. The extension of a path says which format its file has. -/
namespace EnvTemplate

inductive DocumentFormat
  | json
  | yaml
deriving DecidableEq

namespace DocumentFormat

/-- The format that the extension of a path names, in any case of letters. -/
def ofPath? (path : String) : Option DocumentFormat := do
  let extension := Ascii.lower (← FilePath.extension? path)
  if extension = "json".toList then some json
  else if extension = "yaml".toList ∨ extension = "yml".toList then some yaml
  else none

def name : DocumentFormat → String
  | json => "JSON"
  | yaml => "YAML"

end DocumentFormat

/-- What is wrong with the text of a document. The faults of YAML are not told apart. -/
inductive DocumentError
  | json (error : Json.Error)
  | yaml

namespace DocumentError

def format : DocumentError → DocumentFormat
  | json _ => .json
  | yaml => .yaml

def detail : DocumentError → String
  | json error => error.message
  | yaml => "*"

def message (e : DocumentError) : String :=
  e.format.name ++ " deserialization failed: " ++ e.detail

end DocumentError

namespace Document

def read (format : DocumentFormat) (bytes : List UInt8) : Except DocumentError Json :=
  match format with
  | .json => (Json.read bytes).mapError .json
  | .yaml => (Yaml.toJson? bytes).elim (.error .yaml) .ok

def load (tree : FileTree) (path : String) : Except LoadError Value :=
  match DocumentFormat.ofPath? path with
  | none => .error (.unsupported path)
  | some format =>
    match tree.read path with
    | .error error => .error (.io error.message)
    | .ok bytes =>
      match read format bytes with
      | .ok json => .ok (.ofJson json)
      | .error error => .error (.malformed format.name error.detail)

end Document

end EnvTemplate
