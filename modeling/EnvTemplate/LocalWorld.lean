import EnvTemplate.Document
import EnvTemplate.Tables
/-! The world of a process: its variables, the files that its paths lead to, and the documents in them. -/
namespace EnvTemplate

/-- The constants of the platform, Linux on processors of the named architecture. -/
def systemConstants (architecture : String) : Entries Value :=
  [("OS", .string "linux"), ("ARCH", .string architecture), ("FAMILY", .string "unix"),
    ("EXE_SUFFIX", .string "")]

namespace FileTree

def fileBytes (tree : FileTree) (path : String) : Except FileError (List UInt8) :=
  match tree.read path with
  | .ok content => .ok content
  | .error .notFound => .error (.notFound path)
  | .error .permissionDenied => .error (.permissionDenied path)
  | .error error => .error (.io error.message)

end FileTree

structure LocalWorld where
  environment : Environment := {}
  constants : Entries Value := systemConstants "x86_64"
  enums : EnumTypes := []
  tree : FileTree := {}

def LocalWorld.world (l : LocalWorld) : World where
  lookupVariable? := l.environment.lookup?
  lookupConstant? := Entries.get? l.constants
  isBackedEnum := l.enums.isRegistered
  enumCase? := l.enums.case?
  isFile := l.tree.isFile
  fileBytes := l.tree.fileBytes
  loadDocument := Document.load l.tree

end EnvTemplate
