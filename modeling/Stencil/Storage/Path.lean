import Stencil.Text.Split

/-!
# Paths

Paths as texts with slashes.  Nothing is normalised when paths are joined; empty and
`.` components only fall away when a path is cut into components.
-/

namespace Stencil.Path

/-- One path behind another.  A path that starts at the root stands alone, and a slash
is put in between unless there is one. -/
def join (left right : String) : String :=
  if right.toList.head? == some '/' then right
  else if left.isEmpty then right
  else if left.toList.getLast? == some '/' then left ++ right
  else left ++ "/" ++ right

/-- The pieces of a path between its slashes that name something: not the empty ones. -/
def pieces (path : List Char) : List (List Char) := Text.piecesWhere (· == '/') path

/-- The components of a path: its pieces without the dots that stay where they are. -/
def components (path : List Char) : List (List Char) :=
  (pieces path).filter (· != ['.'])

/-- The name of a file without the part from its last dot on.  A dot in front does not
count. -/
def stem (name : List Char) : List Char :=
  match Text.cutLast? '.' name with
  | some ([], _) => name
  | some (before, _) => before
  | none => name

/-- The stem of the file that a path names, if it names one. -/
def fileStem? (path : String) : Option String :=
  match (components path.toList).getLast? with
  | none => none
  | some ['.', '.'] => none
  | some name => some (String.ofList (stem name))

/-- Whether a path starts at the root. -/
def isAbsolute (path : List Char) : Bool := path.head? == some '/'

end Stencil.Path
