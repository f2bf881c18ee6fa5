import ScriptLexer.Files.Host

/-!
# Trees of files

Files and directories in memory, reached by paths relative to the root of the tree. Nothing is known
above the root but that it is a directory.
-/
namespace ScriptLexer

/-- The names on the way from the root. -/
abbrev TreePath := List String

structure FileTree where
  files : List (TreePath × ByteArray) := []
  /-- Directories there are, also without a file in them. -/
  directories : List TreePath := []

namespace FileTree

/-- Where a path leads to. -/
inductive Location where
  | inside (path : TreePath)
  /-- Above the root. -/
  | above
  deriving DecidableEq, Repr

def isFile (tree : FileTree) (path : TreePath) : Bool := tree.files.any (·.1 == path)

def isDirectory (tree : FileTree) (path : TreePath) : Bool :=
  path.isEmpty || tree.directories.any path.isPrefixOf ||
    tree.files.any fun file => path.isPrefixOf file.1 && file.1 != path

/-- Longest name and longest path, in bytes. -/
def maxNameSize : Nat := 255
def maxPathSize : Nat := 4095

/-- Follows names from a location. Each one needs a directory to start from, and all but the last
have to be there; `missing` tells what becomes of a last name that is not. -/
def follow (tree : FileTree) (missing : TreePath → Except FileError Location)
    (location : Location) : List String → Except FileError Location
  | [] => .ok location
  | name :: names =>
    match location with
    | .above =>
      if name = "" ∨ name = "." ∨ name = ".." then follow tree missing .above names
      else .error .notFound
    | .inside here =>
      if !tree.isDirectory here then .error .notADirectory
      else if name = "" ∨ name = "." then follow tree missing (.inside here) names
      else if name = ".." then
        follow tree missing (if here.isEmpty then .above else .inside here.dropLast) names
      else if maxNameSize < name.utf8ByteSize then .error .nameTooLong
      else
        let next := here ++ [name]
        if tree.isFile next || tree.isDirectory next then follow tree missing (.inside next) names
        else if names.isEmpty then missing next
        else .error .notFound

/-- The names of a path, empty ones included. -/
def names (path : String) : List String :=
  path.splitToList (· == '/')

/-- The location of a path. -/
def resolve (tree : FileTree) (missing : TreePath → Except FileError Location) (path : String) :
    Except FileError Location :=
  if path = "" then .error .notFound
  else if path.contains '\x00' then .error .nulInPath
  else if maxPathSize < path.utf8ByteSize then .error .nameTooLong
  else if path.startsWith "/" then follow tree missing .above (names path)
  else follow tree missing (.inside []) (names path)

private def absent (_ : TreePath) : Except FileError Location := .error .notFound

def read (tree : FileTree) (path : String) : Except FileError ByteArray := do
  match ← tree.resolve absent path with
  | .above => throw .isADirectory
  | .inside path =>
    match tree.files.lookup path with
    | some content => return content
    | none => throw .isADirectory

def has (tree : FileTree) (path : String) : Bool := (tree.resolve absent path).isOk

/-- Writes a file into a directory that is there; a file of that path is replaced. -/
def write (tree : FileTree) (path : String) (content : ByteArray) : Except FileError FileTree := do
  match ← tree.resolve (fun path => .ok (.inside path)) path with
  | .above => throw .isADirectory
  | .inside path =>
    if tree.isDirectory path then throw .isADirectory
    else return { tree with files := (path, content) :: tree.files.filter (·.1 != path) }

/-- Makes a directory and those around it. -/
def makeDirectories (tree : FileTree) (path : String) : Except FileError FileTree :=
  let path := (names path).filter (· != "")
  if tree.isFile path then .error .alreadyExists
  else if tree.files.any fun file => file.1.isPrefixOf path then .error .notADirectory
  else .ok { tree with directories := path :: tree.directories }

/-- The tree as a host, with `input` on the input stream. -/
def host (input : ByteArray) : Host (StateM FileTree) where
  readFile path := do return (← get).read path
  fileExists path := do return (← get).has path
  writeFile path text := do
    match (← get).write path text.toUTF8 with
    | .ok tree => set tree; return .ok ()
    | .error error => return .error error
  makeDirectories path := do
    match (← get).makeDirectories path with
    | .ok tree => set tree; return .ok ()
    | .error error => return .error error
  readInput := return .ok input

end FileTree

end ScriptLexer
