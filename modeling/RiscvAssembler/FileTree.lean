import RiscvAssembler.Dictionary
import RiscvAssembler.Text.Quoted

/-!
# File trees

The files and directories below a current directory, as a value. A path is a text whose parts are
separated by slashes; empty parts and single dots stand for where one already is.

## Main definitions

* `FileTree`: directories, and files with their text.
* `FileTree.read`, `FileTree.write`, `FileTree.pathExists`: access by path.
* `FileError`: why a file cannot be opened.
* `normalizePath`: the shortest text of a path that leads through the same directories.
-/

namespace RiscvAssembler

open Text

/-- Why a path cannot be opened. -/
inductive PathProblem
  | notFound
  | notDirectory
  | isDirectory
  | nameTooLong
  deriving DecidableEq, Repr

/-- A path that cannot be opened. -/
structure FileError where
  problem : PathProblem
  path : String
  deriving DecidableEq, Repr

/-- The wording of the error, with its number. -/
def FileError.message (e : FileError) : String :=
  let cause :=
    match e.problem with
    | .notFound => "[Errno 2] No such file or directory"
    | .notDirectory => "[Errno 20] Not a directory"
    | .isDirectory => "[Errno 21] Is a directory"
    | .nameTooLong => "[Errno 36] File name too long"
  cause ++ ": " ++ quoted e.path

/-- The names that lead from the current directory to a place. An absolute path starts with a
slash, and a place above the current directory with double dots. -/
abbrev Place := List String

/-- Files with their text, and directories, by place. The directories on the way to a file or to a
directory are there as well. -/
structure FileTree where
  directories : List Place := []
  files : List (Place × String) := []
  deriving Repr

namespace FileTree

/-- The directories that are there beside those of a tree. -/
def systemDirectories : List Place :=
  [["/"], ["/", "dev"], ["/", "tmp"]]

/-- The null device, an empty file that stays empty. -/
def nullDevice : Place :=
  ["/", "dev", "null"]

/-- What stands at a place. -/
inductive Entry
  | directory
  | file (text : String)
  deriving DecidableEq, Repr

/-- A directory is at the place. -/
def isDirectory (t : FileTree) (p : Place) : Bool :=
  p.all (· == "..") || systemDirectories.contains p || t.directories.any (p.isPrefixOf ·) ||
    t.files.any fun f => p.isPrefixOf f.1 && p != f.1

/-- What stands at a place, if anything does. -/
def entry? (t : FileTree) (p : Place) : Option Entry :=
  match t.files.lookup p with
  | some text => some (.file text)
  | none =>
    if p == nullDevice then some (.file "")
    else if t.isDirectory p then some .directory
    else none

/-! ### Paths -/

/-- The parts of a path between slashes. -/
def parts (path : String) : List String :=
  (path.toList.splitOn '/').map String.ofList

/-- The directory above a place. -/
def parent (p : Place) : Place :=
  if p == ["/"] then p else if p.all (· == "..") then p ++ [".."] else p.dropLast

/-- The place that a part of a path leads to. -/
def enter (p : Place) (part : String) : Place :=
  if part == "" || part == "." then p
  else if part == ".." then parent p
  else p ++ [part]

/-- The number of bytes that a part of a path may have. -/
def longestPart : Nat := 255

/-- The number of bytes that a path may have. -/
def longestPath : Nat := 4095

/-- Follows the parts of a path from a place, each from a directory. -/
def follow (t : FileTree) (p : Place) : List String → Except PathProblem Place
  | [] => .ok p
  | part :: rest =>
    match t.entry? p with
    | none => .error .notFound
    | some (.file _) => .error .notDirectory
    | some .directory =>
      if longestPart < part.utf8ByteSize then .error .nameTooLong
      else t.follow (enter p part) rest

/-- The place that the parts of a path lead to. There need not be anything there. -/
def locateParts (t : FileTree) (path : String) (parts : List String) : Except PathProblem Place :=
  if path.isEmpty then .error .notFound
  else if longestPath < path.utf8ByteSize then .error .nameTooLong
  else t.follow (if path.toList.head? == some '/' then ["/"] else []) parts

/-- The place that a path leads to. -/
def locate (t : FileTree) (path : String) : Except PathProblem Place :=
  t.locateParts path (parts path)

/-- Something is at the end of a path. A path that leads nowhere has nothing at its end, but one
that is too long is not followed at all. -/
def pathExists (t : FileTree) (path : String) : Except FileError Bool :=
  match t.locate path with
  | .ok p => .ok (t.entry? p).isSome
  | .error .nameTooLong => .error ⟨.nameTooLong, path⟩
  | .error _ => .ok false

/-! ### Reading and writing -/

/-- The text of the file at the end of a path. -/
def read (t : FileTree) (path : String) : Except FileError String :=
  match t.locate path with
  | .error problem => .error ⟨problem, path⟩
  | .ok p =>
    match t.entry? p with
    | some (.file text) => .ok text
    | some .directory => .error ⟨.isDirectory, path⟩
    | none => .error ⟨.notFound, path⟩

/-- The parts of a path to write to. One with slashes at its end cannot name a file; it leads no
further than to the directory that its last part lies in. -/
def writeParts (path : String) : List String :=
  let stem := (path.toList.reverse.dropWhile (· == '/')).reverse
  if stem.length < path.length then (parts (String.ofList stem)).dropLast ++ ["."]
  else parts path

/-- The tree with a text in the file at a place. The null device keeps nothing. -/
def put (t : FileTree) (p : Place) (text : String) : FileTree :=
  if p == nullDevice then t else { t with files := Dictionary.insert p text t.files }

/-- The tree after a text has been written to the file at the end of a path, which is made if its
directory exists. -/
def write (t : FileTree) (path text : String) : Except FileError FileTree :=
  match t.locateParts path (writeParts path) with
  | .error problem => .error ⟨problem, path⟩
  | .ok p =>
    match t.entry? p with
    | some .directory => .error ⟨.isDirectory, path⟩
    | _ => .ok (t.put p text)

end FileTree

/-- The root that an absolute path starts from; exactly two slashes are a root of their own. -/
def pathRoot : List Char → String
  | '/' :: '/' :: '/' :: _ => "/"
  | '/' :: '/' :: _ => "//"
  | '/' :: _ => "/"
  | _ => ""

/-- The path without empty parts and single dots. -/
def normalizePath (path : String) : String :=
  let kept := (FileTree.parts path).filter fun part => part != "" && part != "."
  let text := pathRoot path.toList ++ String.intercalate "/" kept
  if text.isEmpty then "." else text

end RiscvAssembler
