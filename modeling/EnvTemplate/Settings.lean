import EnvTemplate.Document
import EnvTemplate.LocalWorld
import EnvTemplate.Resolve
import EnvTemplate.Substitute
/-! Settings of a substitution: the limit of passes, and variables that come before those of the
process. -/
namespace EnvTemplate

structure Settings where
  maxNestingDepth : Nat := Template.defaultLimit
  seedVariables : Entries String := []
deriving DecidableEq

namespace Settings

def depthField : String := "max_nesting_depth"

def variablesField : String := "variables"

def toJson (s : Settings) : Json :=
  .object
    [(depthField, .integer s.maxNestingDepth),
      (variablesField, .object (s.seedVariables.map fun (name, value) => (name, .string value)))]

/-- The variable that overrides the limit of passes. -/
def overrideVariable : String := "ENVRES_MAX_NESTING_DEPTH"

def world (s : Settings) (process : Entries (List UInt8)) (tree : FileTree) : World :=
  LocalWorld.world { environment := ⟨s.seedVariables, process⟩, tree := tree }

/-- Substitutes the placeholders of a text in the world of a process, as the settings say. -/
def substitute (s : Settings) (process : Entries (List UInt8)) (tree : FileTree) (text : String) :
    Except Failure String :=
  Template.substitute (s.world process tree).resolve Template.renderPlain s.maxNestingDepth text

end Settings

inductive SettingsError
  | io (error : OsError)
  | malformed (error : DocumentError)
  | unsupportedFormat (path : String)
  | invalidOverride (name : String) (value : String)

def SettingsError.message : SettingsError → String
  | .io error => "IO error: " ++ error.message
  | .malformed error => "Serialization error: " ++ error.message
  | .unsupportedFormat path => "Unsupported settings file: " ++ path
  | .invalidOverride name value =>
    "Invalid value for " ++ name ++ ": " ++ String.ofList (Quoted.encode value.toList)

end EnvTemplate
