import Groundwork.Text.Search

/-!
# Paths

Paths as texts.  `directory?` gives the directory of a path, `joined` puts a path behind a
directory.  Empty and `.` pieces do not name anything, except a `.` at the very front.
-/

namespace Groundwork.Path

/-- Whether a path begins at the root. -/
def isAbsolute (p : String) : Bool :=
  Text.startsWith p "/"

/-- The pieces of a path between the slashes, after the first slash of an absolute one. -/
def pieces (p : String) : List String :=
  let all := Text.split '/' p
  if isAbsolute p then all.drop 1 else all

/-- The pieces that name something. -/
def named (p : String) : List String :=
  (pieces p).filter fun piece => !piece.isEmpty && piece != "."

/-- The pieces, last first, without those at the end that name nothing.  The front of a relative
path is never left out, unless it is empty. -/
def dropUnnamed (absolute : Bool) : List String → List String
  | [] => []
  | piece :: rest =>
    if piece.isEmpty ∨ (piece = "." ∧ (absolute ∨ rest ≠ [])) then dropUnnamed absolute rest
    else piece :: rest

/-- The directory that a path lies in; none for the root and for the empty path. -/
def directory? (p : String) : Option String :=
  let absolute := isAbsolute p
  match dropUnnamed absolute (pieces p).reverse with
  | [] => none
  | _ :: before =>
    let left := dropUnnamed absolute before
    some ((if absolute then "/" else "") ++ Text.join "/" left.reverse)

/-- A path seen from a directory; an absolute path stays what it is. -/
def joined (directory p : String) : String :=
  if isAbsolute p ∨ directory.isEmpty then p
  else if directory.toList.getLast? = some '/' then directory ++ p
  else directory ++ "/" ++ p

end Groundwork.Path
