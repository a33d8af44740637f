import Groundwork.IoFault
import Groundwork.Path
import Groundwork.Text.Utf8

/-!
# Files

A tree of files as seen from a working directory.  A path is walked piece by piece, and the first
piece that cannot be taken decides the fault.  Nothing is known of what lies outside the working
directory, so no name is found there.
-/

namespace Groundwork

/-- Files below a working directory, and directories besides those that hold files. -/
structure FileTree where
  files : List (List String × List UInt8) := []
  directories : List (List String) := []
  deriving Inhabited

namespace FileTree

/-- The tree with a file; one at the same place is replaced. -/
def addFile (t : FileTree) (path : String) (content : List UInt8) : FileTree :=
  let pieces := Path.named path
  { t with files := (t.files.filter fun f => f.1 != pieces) ++ [(pieces, content)] }

/-- The tree with a directory. -/
def addDirectory (t : FileTree) (path : String) : FileTree :=
  { t with directories := t.directories ++ [Path.named path] }

/-- What a path leads to. -/
inductive Place where
  | file (content : List UInt8)
  /-- A directory of the tree, by its pieces. -/
  | inside (pieces : List String)
  /-- A directory so many levels above the tree, or anywhere else. -/
  | outside

/-- Whether pieces name a directory. -/
def isDirectory (t : FileTree) (at_ : List String) : Bool :=
  at_.isEmpty || t.files.any (fun f => at_.isPrefixOf f.1 && at_ != f.1)
    || t.directories.any fun d => at_.isPrefixOf d

/-- What a name means in a directory of the tree. -/
def enter (t : FileTree) (at_ : List String) (name : String) : Except IoFault Place :=
  let target := at_ ++ [name]
  if name.utf8ByteSize > 255 then .error .nameTooLong
  else match t.files.find? fun f => f.1 = target with
    | some f => .ok (.file f.2)
    | none => if t.isDirectory target then .ok (.inside target) else .error .noEntry

/-- Takes one piece of a path. -/
def step (t : FileTree) (place : Place) (piece : String) : Except IoFault Place :=
  match place with
  | .file _ => .error .notDirectory
  | .inside here =>
    if piece.isEmpty ∨ piece = "." then .ok place
    else if piece = ".." then .ok (if here.isEmpty then .outside else .inside here.dropLast)
    else t.enter here piece
  | .outside =>
    if piece.isEmpty ∨ piece = "." ∨ piece = ".." then .ok place else .error .noEntry

/-- What a path leads to. -/
def find (t : FileTree) (path : String) : Except IoFault Place :=
  if path.isEmpty then .error .noEntry
  else if path.toList.contains '\x00' then .error .nulInName
  else if path.utf8ByteSize > 4095 then .error .nameTooLong
  else (Path.pieces path).foldlM t.step (if Path.isAbsolute path then .outside else .inside [])

/-- The bytes of the file at a path. -/
def read (t : FileTree) (path : String) : Except IoFault (List UInt8) :=
  match t.find path with
  | .error fault => .error fault
  | .ok (.file content) => .ok content
  | .ok _ => .error .isDirectory

/-- The text of the file at a path. -/
def readText (t : FileTree) (path : String) : Except IoFault String :=
  match t.read path with
  | .error fault => .error fault
  | .ok bytes =>
    match Text.decode? bytes with
    | some s => .ok s
    | none => .error .notText

end FileTree

end Groundwork
