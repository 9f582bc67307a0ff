/-
This file defines trees of files, the paths through them, and why a file cannot be read or written.
-/

namespace Formwork

inductive FileError where
  | notFound
  | notADirectory
  | isADirectory
  | nameTooLong
  | other (reason : String)
deriving DecidableEq

namespace FileError

def message : FileError → String
  | notFound => "No such file or directory (os error 2)"
  | notADirectory => "Not a directory (os error 20)"
  | isADirectory => "Is a directory (os error 21)"
  | nameTooLong => "File name too long (os error 36)"
  | other reason => reason

end FileError

/-- The names on the way from the root to a file or a directory. -/
abbrev Location := List String

/-- The files of a system by their locations, and the directory that a program runs in. -/
structure FileTree where
  files : List (Location × List UInt8) := []
  working : Location := ["tmp", "work"]

/-- What stands at a location. -/
inductive FileTree.Entry where
  | directory
  | file (content : List UInt8)
deriving DecidableEq

namespace FileTree

/-- The directories that a system has in its root. -/
def systemDirectories : List Location :=
  [["bin"], ["dev"], ["etc"], ["lib"], ["tmp"], ["usr"], ["var"]]

/-- Files that are always empty to a reader and keep nothing. -/
def sinks : List Location :=
  [["dev", "null"], ["dev", "stdin"], ["dev", "stderr"]]

/-- The file that shows what is written to it. -/
def standardOutput : Location :=
  ["dev", "stdout"]

/-- The most bytes that one name may have. -/
def longestName : Nat := 255

/-- The most bytes that a path may have. -/
def longestPath : Nat := 4095

/-- The names in a path. -/
def names (path : String) : List String :=
  (path.splitOn "/").filter fun name => !name.isEmpty

def isAbsolute (path : String) : Bool :=
  path.toList.head? == some '/'

/-- Whether a path can only name a directory. -/
def endsInSlash (path : String) : Bool :=
  path.toList.getLast? == some '/'

/-- A tree with these files in the directory that the program runs in. -/
def ofFiles (files : List (String × List UInt8)) : FileTree :=
  let tree : FileTree := {}
  { tree with files := files.map fun (path, content) => (tree.working ++ names path, content) }

def content? (tree : FileTree) (location : Location) : Option (List UInt8) :=
  if sinks.contains location then some []
  else (tree.files.find? (·.1 == location)).map (·.2)

def isDirectory (tree : FileTree) (location : Location) : Bool :=
  location.isPrefixOf tree.working || systemDirectories.contains location ||
    tree.files.any fun (file, _) => location.isPrefixOf file && location != file

/-- What stands at a location in a directory. -/
def entry (tree : FileTree) (location : Location) : Except FileError Entry :=
  if tree.isDirectory location then .ok .directory
  else if location.any fun name => longestName < name.utf8ByteSize then .error .nameTooLong
  else
    match tree.content? location with
    | some content => .ok (.file content)
    | none => .error .notFound

/-- Where a name leads from a location, which has to be a directory. -/
def enter (tree : FileTree) (location : Location) (name : String) : Except FileError Location := do
  match ← tree.entry location with
  | .file _ => .error .notADirectory
  | .directory =>
      .ok (if name == "." then location
        else if name == ".." then location.dropLast
        else location ++ [name])

/-- Where a path leads. Nothing has to stand there yet. -/
def locate (tree : FileTree) (path : String) : Except FileError Location :=
  if path.isEmpty then .error .notFound
  else if longestPath < path.utf8ByteSize then .error .nameTooLong
  else (names path).foldlM tree.enter (if isAbsolute path then [] else tree.working)

def read (tree : FileTree) (path : String) : Except FileError (List UInt8) := do
  match ← tree.entry (← tree.locate path) with
  | .directory => .error .isADirectory
  | .file content => if endsInSlash path then .error .notADirectory else .ok content

/-- The tree with the content at a location. -/
def put (tree : FileTree) (location : Location) (content : List UInt8) : FileTree :=
  { tree with files := (location, content) :: tree.files.filter (·.1 != location) }

/-- A file may be new, but no slash may follow its name. -/
def write (tree : FileTree) (path : String) (content : List UInt8) :
    Except FileError FileTree := do
  let location ← tree.locate path
  if endsInSlash path then .error .isADirectory
  else
    match tree.entry location with
    | .ok .directory => .error .isADirectory
    | .ok (.file _) => .ok (tree.put location content)
    | .error .notFound => .ok (tree.put location content)
    | .error cause => .error cause

/-- The text of a file. -/
def text? (tree : FileTree) (location : Location) : Option String :=
  (tree.content? location).bind fun content => String.fromUTF8? content.toByteArray

end FileTree

end Formwork
