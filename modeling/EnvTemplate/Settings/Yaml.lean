import EnvTemplate.Settings
import EnvTemplate.Yaml.Json
/-! Reading settings from YAML: a mapping with their fields. Fields may be missing, and unknown ones are
passed over. A text may be written without quotes whatever it looks like. -/
namespace EnvTemplate.Settings

open Yaml (Document Node)

/-- The node itself, or the one that it is an alias of. -/
def target? (d : Document) : Node → Option Node
  | .alias number => d.anchors.node? number
  | node => some node

def yamlText? (d : Document) (node : Node) : Option String := do
  match ← target? d node with
  | .scalar _ _ text => some (String.ofList text)
  | _ => none

/-- The entries of a mapping. Nothing at all is an empty mapping too. -/
def yamlEntries? (d : Document) (node : Node) : Option (List (String × Node)) := do
  match ← target? d node with
  | .mapping _ entries => entries.mapM fun (key, value) => return (← yamlText? d key, value)
  | .scalar _ .plain [] => some []
  | _ => none

/-- The limit that a scalar spells without quotes, or in a literal block that is tagged as an
integer. -/
def yamlLimit? (d : Document) (node : Node) : Option Nat := do
  match ← target? d node with
  | .scalar tag style text =>
    if style = .plain ∨ (style = .literal ∧ tag = some (Yaml.coreTag "int")) then
      let n ← Yaml.Literal.natural? text
      if n < Nat.pow 2 64 then some n else none
    else none
  | _ => none

def yamlVariables? (d : Document) (node : Node) : Option (Entries String) := do
  let pairs ← (← yamlEntries? d node).mapM fun (name, value) => return (name, ← yamlText? d value)
  some (Entries.ofPairs pairs)

def valuesOf (field : String) (entries : List (String × Node)) : List Node :=
  (entries.filter (·.1 == field)).map Prod.snd

/-- The value of a field, or its default. A field that is there twice is refused. -/
def field? {α : Type} (entries : List (String × Node)) (name : String) (read : Node → Option α)
    (default : α) : Option α :=
  match valuesOf name entries with
  | [] => some default
  | [node] => read node
  | _ => none

def ofYaml? (d : Document) : Option Settings := do
  let entries ← yamlEntries? d d.root
  let maxNestingDepth ← field? entries depthField (yamlLimit? d) Template.defaultLimit
  let seedVariables ← field? entries variablesField (yamlVariables? d) []
  some { maxNestingDepth, seedVariables }

def ofYamlBytes? (bytes : List UInt8) : Option Settings := do
  ofYaml? (← Document.ofBytes? bytes)

end EnvTemplate.Settings
