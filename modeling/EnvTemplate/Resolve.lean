import EnvTemplate.Codec.Csv
import EnvTemplate.Heap
import EnvTemplate.Json.Reader
import EnvTemplate.Query
import EnvTemplate.Value.Coercion
import EnvTemplate.World
/-! Running the steps of a heap. Each step makes a new value of the present one; the first failure
ends the run. The heap itself is only named in errors. -/
namespace EnvTemplate

/-- The position that a key spells: decimal, without sign and leading zeros, and below `2 ^ 64`. -/
def sequenceIndex? (key : String) : Option Nat :=
  let digits := key.toList
  if Literal.isCanonical digits then
    let n := Nat.ofDigitChars 10 digits 0
    if n < Nat.pow 2 64 then some n else none
  else none

namespace Step

/-- What a step works on: its argument, or else the present value as text. -/
def operand (s : Step) (v : Value) (refusal : ResolveError) : Except ResolveError String :=
  match s.argument with
  | some argument => .ok argument
  | none =>
    match v.scalarText? with
    | some text => .ok text
    | none => .error refusal

def nameOperand (s : Step) (v : Value) (subject heap : String) : Except ResolveError String :=
  s.operand v (.invalidName subject v.typeName heap)

def decodeBase64 (s : Step) (v : Value) (heap : String) : Except ResolveError Value := do
  let payload ← s.operand v (Objection.base64NotScalar.error heap)
  match Base64.decode payload.toList with
  | .ok bytes => .ok (.ofBytes bytes)
  | .error fault => .error ((Objection.base64 fault).error heap)

def truth (s : Step) (v : Value) (heap : String) : Except ResolveError Bool :=
  if s.argument.isSome then .error ((Objection.takesNoArgument s.modifier).error heap)
  else .ok v.isTruthy

def direct (s : Step) (heap : String) : Except ResolveError Value :=
  match s.argument with
  | some argument => .ok (.string argument)
  | none => .error (Objection.directUndefined.error heap)

def index (s : Step) (v : Value) (heap : String) : Except ResolveError Value :=
  let key := s.argument.getD ""
  let found : Except ResolveError (Option Value) :=
    match v with
    | .sequence items => .ok ((sequenceIndex? key).bind (items[·]?))
    | .mapping entries => .ok (Entries.get? entries key)
    | _ => .error (Objection.notIndexable.error heap)
  match found with
  | .ok (some part) => .ok part
  | .ok none => .error (.keyNotFound key v.jsonText heap)
  | .error error => .error error

end Step

namespace Value

def parseJson (v : Value) (heap : String) : Except ResolveError Value :=
  match v with
  | .bytes bs =>
    if (Utf8.decode? bs).isNone then .error (Objection.jsonNotUtf8.error heap) else spelled v
  | v => spelled v
where
  spelled (v : Value) : Except ResolveError Value :=
    match v.scalarText? with
    | none => .error (Objection.jsonNotScalar.error heap)
    | some text =>
      match Json.ofText text with
      | .ok json => .ok (.ofJson json)
      | .error error => .error ((Objection.json error).error heap)

/-- The fields of the record that a scalar spells. The empty text is a record without fields. -/
def parseCsv (v : Value) (heap : String) : Except ResolveError Value :=
  match v.scalarText? with
  | none => .error (Objection.csvNotScalar.error heap)
  | some text =>
    if text.isEmpty then .ok (.sequence [])
    else .ok (.sequence ((Csv.fields text.toList).map fun field => .string (String.ofList field)))

def parseUrl (v : Value) (heap : String) : Except ResolveError Value :=
  match v.scalarText? with
  | none => .error ((Objection.url .invalid).error heap)
  | some text =>
    match Url.decompose text.toList with
    | .ok parts => .ok (.mapping parts)
    | .error refusal => .error ((Objection.url refusal).error heap)

/-- The mapping that an encoded query stands for. It has none only if an index does not fit 64 bits. -/
def ofQuery (query : List Char) : Except Failure Value :=
  match Query.parse query with
  | some entries => .ok (.mapping entries)
  | none => .error .overflow

def parseQuery (v : Value) : Except Failure Value :=
  ofQuery (Query.component v.toText.toList)

def trim (v : Value) : Value :=
  .string (String.ofList (Text.strip Ascii.isTrimmed v.toText.toList))

def urlencode (v : Value) : Value :=
  .string (String.ofList (Form.encode v.toText.toList))

def toIntValue (v : Value) (heap : String) : Except ResolveError Value :=
  match v.toInt? with
  | some n => .ok (.int n)
  | none => .error (Objection.notInteger.error heap)

def toFloatValue (v : Value) (heap : String) : Except ResolveError Value :=
  match v.toFloat? with
  | some x => .ok (.float x)
  | none => .error (Objection.notFloat.error heap)

end Value

namespace World

def constant (w : World) (s : Step) (v : Value) (heap : String) : Except ResolveError Value := do
  let name ← s.nameOperand v "constant" heap
  match w.lookupConstant? name with
  | some value => .ok value
  | none => .error (.undefinedReference .constant name heap)

def environmentVariable (w : World) (s : Step) (v : Value) (heap : String) :
    Except ResolveError Value := do
  let name ← s.nameOperand v "environment" heap
  match w.lookupVariable? name with
  | some text => .ok (.string text)
  | none => .error (.undefinedReference .environmentVariable name heap)

def caseOf (w : World) (enumType : String) (v : Value) (heap : String) :
    Except ResolveError Value :=
  if !w.isBackedEnum enumType then .error (.invalidEnum enumType heap)
  else
    match w.enumCase? enumType v with
    | some case => .ok (.enumCase case)
    | none => .error (.unsupportedCase enumType v.jsonText heap)

/-- The case of an enum that a string or an integer backs. -/
def enumCase (w : World) (s : Step) (v : Value) (heap : String) : Except ResolveError Value :=
  match v with
  | .string _ | .int _ => w.caseOf (s.argument.getD "") v heap
  | _ => .error (Objection.enumType.error heap)

def existingFile (w : World) (s : Step) (v : Value) (heap : String) :
    Except ResolveError String := do
  let path ← s.nameOperand v "file" heap
  if w.isFile path then .ok path else .error (.fileNotFound path heap)

def fileContent (w : World) (s : Step) (v : Value) (heap : String) :
    Except ResolveError Value := do
  let path ← w.existingFile s v heap
  match w.fileBytes path with
  | .ok bytes => .ok (.ofBytes bytes)
  | .error (.notFound _) => .error (.fileNotFound path heap)
  | .error error => .error (.fileRead path error.message heap)

def document (w : World) (s : Step) (v : Value) (heap : String) : Except ResolveError Value := do
  let path ← w.existingFile s v heap
  match w.loadDocument path with
  | .ok value => .ok value
  | .error error => .error (.load path error.message heap)

def apply (w : World) (s : Step) (v : Value) (heap : String) : Except Failure Value :=
  match s.modifier with
  | .base64 => reported (s.decodeBase64 v heap)
  | .bool => reported ((s.truth v heap).map .bool)
  | .const => reported (w.constant s v heap)
  | .direct => reported (s.direct heap)
  | .enum => reported (w.enumCase s v heap)
  | .env => reported (w.environmentVariable s v heap)
  | .file => reported (w.fileContent s v heap)
  | .float => reported (v.toFloatValue heap)
  | .int => reported (v.toIntValue heap)
  | .json => reported (v.parseJson heap)
  | .key => reported (s.index v heap)
  | .not => reported ((s.truth v heap).map fun b => .bool (!b))
  | .queryString => v.parseQuery
  | .require => reported (w.document s v heap)
  | .strcsv => reported (v.parseCsv heap)
  | .string => .ok (.string v.toText)
  | .trim => .ok v.trim
  | .url => reported (v.parseUrl heap)
  | .urlencode => .ok v.urlencode

def run (w : World) (steps : List Step) (first : Value) (heap : String) : Except Failure Value :=
  steps.foldlM (fun v s => w.apply s v heap) first

def interpret (w : World) (steps : List Step) (heap : String) : Except Failure Value :=
  w.run steps .null heap

/-- The value of a heap, for a given way to find its steps. -/
def resolveBy (stepsOf : String → Except ResolveError (List Step)) (w : World) (heap : String) :
    Except Failure Value := do
  let steps ← reported (stepsOf heap)
  w.interpret steps heap

def resolve (w : World) (heap : String) : Except Failure Value :=
  resolveBy Heap.parse w heap

end World

end EnvTemplate
