import EnvTemplate.FilePath
import EnvTemplate.World
/-! Tables of variables, constants, enums, files and documents, and the worlds that they make. -/
namespace EnvTemplate

/-- Variables: those set by hand come first, then those of the process, which are raw bytes. -/
structure Environment where
  assigned : Entries String := []
  process : Entries (List UInt8) := []

namespace Environment

def set (e : Environment) (name value : String) : Environment :=
  { e with assigned := Entries.insert e.assigned name value }

def canName (name : String) : Bool :=
  !name.isEmpty && !name.toList.contains '=' && !name.toList.contains '\x00'

/-- The text of a variable. A process variable that is no UTF-8 text counts as not there. -/
def lookup? (e : Environment) (name : String) : Option String :=
  match Entries.get? e.assigned name with
  | some value => some value
  | none =>
    if canName name then
      ((Entries.get? e.process name).bind Utf8.decode?).map String.ofList
    else none

end Environment

/-- Registered enums: for each type its cases, a name with its backing. -/
abbrev EnumTypes := Entries (Entries Backing)

namespace EnumTypes

/-- Registers a type in place of any earlier one. Of several cases with one name the last backing
counts, at the first place. -/
def register (enums : EnumTypes) (enumType : String) (cases : List (String × Backing)) : EnumTypes :=
  Entries.insert enums enumType (Entries.ofPairs cases)

def isRegistered (enums : EnumTypes) (enumType : String) : Bool :=
  (Entries.get? enums enumType).isSome

def case? (enums : EnumTypes) (enumType : String) (value : Value) : Option EnumCase := do
  let cases ← Entries.get? enums enumType
  let (name, backing) ← cases.find? fun (_, backing) => backing.admits value
  some ⟨enumType, name, backing⟩

end EnumTypes

/-- Files by their normal paths. -/
abbrev MemoryFiles := List ((Bool × List String) × List UInt8)

namespace MemoryFiles

def write (files : MemoryFiles) (path : String) (content : List UInt8) : MemoryFiles :=
  (FilePath.normal path, content) :: files

def read (files : MemoryFiles) (path : String) : Except FileError (List UInt8) :=
  match files.lookup (FilePath.normal path) with
  | some content => .ok content
  | none => .error (.notFound path)

end MemoryFiles

/-- Everything that a world in memory holds. A faulty path is a file that cannot be read; documents
go by the exact spelling of their paths. -/
structure Tables where
  environment : Environment := {}
  constants : Entries Value := []
  enums : EnumTypes := []
  files : MemoryFiles := []
  faults : Entries FileError := []
  documents : Entries (Except LoadError Value) := []

def Tables.world (t : Tables) : World where
  lookupVariable? := t.environment.lookup?
  lookupConstant? := Entries.get? t.constants
  isBackedEnum := t.enums.isRegistered
  enumCase? := t.enums.case?
  isFile path := (Entries.get? t.faults path).isSome || (t.files.read path).toBool
  fileBytes path :=
    match Entries.get? t.faults path with
    | some error => .error error
    | none => t.files.read path
  loadDocument path := (Entries.get? t.documents path).getD (.error (.unsupported path))

end EnvTemplate
