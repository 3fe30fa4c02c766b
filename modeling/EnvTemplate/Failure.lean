import EnvTemplate.Codec.Base64
import EnvTemplate.Json.Error
import EnvTemplate.Modifier
import EnvTemplate.Url.Parts
/-! Why a heap has no value and a text no substitution, and the messages that say so. -/
namespace EnvTemplate

inductive FileError
  | notFound (path : String)
  | permissionDenied (path : String)
  | io (message : String)
deriving DecidableEq

def FileError.message : FileError → String
  | .notFound path => "File not found: " ++ path
  | .permissionDenied path => "Permission denied: " ++ path
  | .io message => "IO error: " ++ message

inductive LoadError
  | io (message : String)
  /-- A document of the named format that cannot be read. -/
  | malformed (format : String) (message : String)
  | unsupported (path : String)
deriving DecidableEq

def LoadError.message : LoadError → String
  | .io message => "IO error: " ++ message
  | .malformed format message => format ++ " error: " ++ message
  | .unsupported path => "unsupported document: " ++ path

/-- What kind of name is not defined. -/
inductive Reference
  | environmentVariable
  | constant
deriving DecidableEq

def Reference.text : Reference → String
  | .environmentVariable => "environment variable"
  | .constant => "constant"

/-- What a modifier objects to in the value or the argument it is given. -/
inductive Objection
  | base64NotScalar
  | base64 (fault : Base64.Fault)
  | takesNoArgument (m : Modifier)
  | directUndefined
  | enumType
  | notInteger
  | notFloat
  | jsonNotUtf8
  | jsonNotScalar
  | json (error : Json.Error)
  | notIndexable
  | csvNotScalar
  | url (refusal : Url.Refusal)

def Objection.text : Objection → String
  | .base64NotScalar => "Non-scalar base64"
  | .base64 .charset => "Invalid base64"
  | .base64 .malformed => "Cannot decode base64"
  | .takesNoArgument m => "Modifier \"" ++ m.token ++ "\" takes no argument"
  | .directUndefined => "Undefined direct value"
  | .enumType => "Resolved value did not result in a string or int"
  | .notInteger => "Non-numeric env var cannot be cast to int"
  | .notFloat => "Non-numeric env var cannot be cast to float"
  | .jsonNotUtf8 => "Invalid JSON \"Malformed UTF-8 characters\""
  | .jsonNotScalar => "Non-scalar JSON source"
  | .json error => "Invalid JSON \"" ++ error.message ++ "\""
  | .notIndexable => "Cannot get value by key from not array value"
  | .csvNotScalar => "Non-scalar csv"
  | .url refusal => refusal.reason

/-- Why a heap has no value or a text no substitution. -/
inductive ResolveError
  | invalidHeap (reason heap : String)
  | invalidName (subject found heap : String)
  | invalidEnum (enumType heap : String)
  | invalidValue (reason heap : String)
  | undefinedReference (kind : Reference) (name heap : String)
  | keyNotFound (key target heap : String)
  | unsupportedCase (enumType value heap : String)
  | fileNotFound (path heap : String)
  | fileRead (path reason heap : String)
  | load (path reason heap : String)
  /-- Placeholders are left after as many passes as the limit allows. -/
  | nestingDepthExceeded (limit : Nat)
deriving DecidableEq

def Objection.error (objection : Objection) (heap : String) : ResolveError :=
  .invalidValue objection.text heap

namespace ResolveError

def heap? : ResolveError → Option String
  | invalidHeap _ heap | invalidName _ _ heap | invalidEnum _ heap | invalidValue _ heap
  | undefinedReference _ _ heap | keyNotFound _ _ heap | unsupportedCase _ _ heap
  | fileNotFound _ heap | fileRead _ _ heap | load _ _ heap => some heap
  | nestingDepthExceeded _ => none

/-- The end of a message that names the heap. -/
def origin (heap : String) : String :=
  " (resolved from \"" ++ heap ++ "\")"

def message : ResolveError → String
  | invalidHeap reason heap => reason ++ " in heap: " ++ heap
  | invalidName subject found heap =>
    "invalid " ++ subject ++ " name: value of type \"" ++ found ++ "\" is non-scalar" ++ origin heap
  | invalidEnum enumType heap => "\"" ++ enumType ++ "\" is not a backed enum" ++ origin heap
  | invalidValue reason heap => reason ++ origin heap
  | undefinedReference kind name heap =>
    "undefined " ++ kind.text ++ " \"" ++ name ++ "\"" ++ origin heap
  | keyNotFound key target heap => "key \"" ++ key ++ "\" not found in " ++ target ++ origin heap
  | unsupportedCase enumType value heap =>
    "enum value " ++ value ++ " is not backed by \"" ++ enumType ++ "\"" ++ origin heap
  | fileNotFound path heap => "file \"" ++ path ++ "\" not found" ++ origin heap
  | fileRead path reason heap =>
    "file \"" ++ path ++ "\" not readable: " ++ reason ++ origin heap
  | load path reason heap => "cannot load \"" ++ path ++ "\": " ++ reason ++ origin heap
  | nestingDepthExceeded limit =>
    "maximum nesting depth exceeded while processing string (limit " ++
      String.ofList (Decimal.ofNat limit) ++ ")"

end ResolveError

/-- What ends a run without a result: an error that it reports, or an index beyond 64 bits, which
stops the process. -/
inductive Failure
  | reported (error : ResolveError)
  | overflow
deriving DecidableEq

/-- A result whose error, if it is one, gets reported. -/
def reported {α : Type} (result : Except ResolveError α) : Except Failure α :=
  result.mapError .reported

end EnvTemplate
