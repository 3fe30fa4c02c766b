import EnvTemplate.Text.Ascii
import EnvTemplate.Text.Cut
/-! File paths with slashes as separators. Two paths are the same when their components are: repeated
slashes, inner dots and a slash at the end do not matter, and double dots are not resolved. -/
namespace EnvTemplate.FilePath

def names (path : String) : List String :=
  (path.toList.splitOn '/').map String.ofList

def isAbsolute (path : String) : Bool :=
  path.toList.head? == some '/'

/-- The components of a path. Only a dot at the start of a relative path is one. -/
def components (path : String) : List String :=
  match names path with
  | [] => []
  | first :: rest =>
    let kept := rest.filter fun name => name != "" && name != "."
    if first = "" then kept else first :: kept

/-- What two spellings of a path have in common. -/
def normal (path : String) : Bool × List String :=
  (isAbsolute path, components path)

/-- The part of a file's name after its last dot. A dot at the start of a name does not count. -/
def extension? (path : String) : Option (List Char) :=
  match (components path).getLast? with
  | none => none
  | some name =>
    if name = ".." ∨ name = "." then none
    else
      match Text.cutLast '.' name.toList with
      | none => none
      | some (stem, extension) => if stem.isEmpty then none else some extension

end EnvTemplate.FilePath
