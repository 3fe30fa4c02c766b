import EnvTemplate.FilePath
import EnvTemplate.Text.Utf8
/-! A tree of files and directories as Linux looks paths up in it. -/
namespace EnvTemplate

/-- Files by the names that lead to them from the root, directories that need not hold a file, and the
files that the process may not read. Relative paths start from the current directory. -/
structure FileTree where
  files : List (List String × List UInt8) := []
  directories : List (List String) := []
  unreadable : List (List String) := []
  current : List String := []

inductive OsError
  | notFound
  | notDirectory
  | isDirectory
  | permissionDenied
  | nameTooLong
  | nulInName
deriving DecidableEq

def OsError.message : OsError → String
  | .notFound => "No such file or directory (os error 2)"
  | .notDirectory => "Not a directory (os error 20)"
  | .isDirectory => "Is a directory (os error 21)"
  | .permissionDenied => "Permission denied (os error 13)"
  | .nameTooLong => "File name too long (os error 36)"
  | .nulInName => "file name contained an unexpected NUL byte"

namespace FileTree

def content? (tree : FileTree) (names : List String) : Option (List UInt8) :=
  tree.files.lookup names

/-- Whether the names lead to a directory, which exists as soon as something is in it. -/
def isDirectory (tree : FileTree) (names : List String) : Bool :=
  names.isPrefixOf tree.current || tree.directories.any (names.isPrefixOf ·) ||
    tree.files.any fun (path, _) => names.isPrefixOf path && names != path

/-- Follows one name from a directory. The root is its own parent. -/
def follow (tree : FileTree) (names : List String) (name : String) :
    Except OsError (List String) :=
  if !tree.isDirectory names then .error .notDirectory
  else if name = "." then .ok names
  else if name = ".." then .ok names.dropLast
  else if 255 < (utf8 name).length then .error .nameTooLong
  else
    let longer := names ++ [name]
    if (tree.content? longer).isSome || tree.isDirectory longer then .ok longer
    else .error .notFound

/-- The directory that a path starts from. -/
def start (tree : FileTree) (path : String) : List String :=
  if FilePath.isAbsolute path then [] else tree.current

/-- The names of the file or the directory that a path leads to. A slash at the end of a path asks
for a directory. -/
def locate (tree : FileTree) (path : String) : Except OsError (List String) := do
  if path.toList.contains '\x00' then .error .nulInName
  if path.isEmpty then .error .notFound
  if 4096 ≤ (utf8 path).length then .error .nameTooLong
  let names := FilePath.names path
  let place ← (names.filter (· != "")).foldlM tree.follow (tree.start path)
  if names.getLast? = some "" then tree.follow place "." else .ok place

def pathExists (tree : FileTree) (path : String) : Bool :=
  (tree.locate path).toBool

def read (tree : FileTree) (path : String) : Except OsError (List UInt8) := do
  let names ← tree.locate path
  match tree.content? names with
  | some content => if tree.unreadable.contains names then .error .permissionDenied else .ok content
  | none => .error .isDirectory

def isFile (tree : FileTree) (path : String) : Bool :=
  match tree.locate path with
  | .ok names => (tree.content? names).isSome
  | .error _ => false

/-- The names that a path without double dots spells from the root. -/
def namesOf (tree : FileTree) (path : String) : List String :=
  tree.start path ++ (FilePath.components path).filter (· != ".")

/-- Writes a file, and with it the directories that lead to it. -/
def write (tree : FileTree) (path : String) (content : List UInt8) : FileTree :=
  let names := tree.namesOf path
  { tree with files := (names, content) :: tree.files.filter (·.1 != names) }

def makeDirectory (tree : FileTree) (path : String) : FileTree :=
  { tree with directories := tree.namesOf path :: tree.directories }

end FileTree

end EnvTemplate
