import TypedChannel.IoError
/-!
# TypedChannel.Host.Files

The part of a file system that creating a file looks at.

1. A path is walked name by name, from the root when it starts with a slash and
   from the current directory otherwise; each name but the last must be a
   directory.
2. The last name may be new, or a file, which is then written anew. A path that
   ends with a slash or in a dot names a directory.
-/

namespace TypedChannel

/-- The directories and files of a host, each as the names that lead to it from the root. -/
structure FileTree where
  directories : List (List String) :=
    [[], ["bin"], ["boot"], ["dev"], ["etc"], ["home"], ["lib"], ["media"], ["mnt"], ["opt"],
      ["proc"], ["root"], ["run"], ["sbin"], ["srv"], ["sys"], ["tmp"], ["usr"], ["usr", "bin"],
      ["usr", "lib"], ["usr", "local"], ["var"], ["var", "log"], ["var", "tmp"]]
  files : List (List String) :=
    [["dev", "null"], ["dev", "zero"], ["etc", "hostname"], ["etc", "hosts"], ["etc", "passwd"]]
  /-- The current directory. -/
  current : List String := []
  deriving DecidableEq, Repr

namespace FileTree

/-- The most bytes of a name. -/
def maxName : Nat := 255

/-- A path of this many bytes, or more, is too long. -/
def pathLimit : Nat := 4096

/-- Go one name further, from a directory to a directory. -/
def enter (tree : FileTree) (here : List String) (name : String) :
    Except Errno (List String) :=
  if name = "." then .ok here
  else if name = ".." then .ok here.dropLast
  else if maxName < name.utf8ByteSize then .error .nameTooLong
  else if tree.directories.contains (here ++ [name]) then .ok (here ++ [name])
  else if tree.files.contains (here ++ [name]) then .error .notADirectory
  else .error .noSuchFile

/-- Create a file called `name` in the directory `here`. -/
def createIn (tree : FileTree) (here : List String) (name : String) : Except Errno Unit :=
  if name = "." || name = ".." || tree.directories.contains (here ++ [name]) then
    .error .isADirectory
  else if maxName < name.utf8ByteSize then .error .nameTooLong
  else .ok ()

/-- Create the file that a path names. -/
def create (tree : FileTree) (path : String) : Except Errno Unit := do
  if pathLimit ≤ path.utf8ByteSize then
    throw .nameTooLong
  let names := (path.splitOn "/").filter (· ≠ "")
  let start := if path.toList.head? = some '/' then [] else tree.current
  let here ← names.dropLast.foldlM tree.enter start
  match names.getLast? with
  | none => throw .isADirectory
  | some name => if path.endsWith "/" then throw .isADirectory else tree.createIn here name

end FileTree

end TypedChannel
