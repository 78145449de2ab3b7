import Stencil.Text.LetterCase
import Stencil.Text.Split

/-!
# Words of a name

Names in a declaration are cut into words and put together again in the casing
of the generated code.  A word is a run of ASCII letters and digits; its inner
case is kept, so `petId` is one word.

## Main definitions

* `words`, `pascalCase`, `camelCase`: cutting a name and joining its words.
* `replaceIllegal`: a name in which the characters an identifier cannot hold are
  underscores.
* `operationWords`: the words of an operation that has no name of its own.
-/

namespace Stencil.Naming

open Stencil.Text

/-- The words of a name. -/
def words (name : List Char) : List (List Char) :=
  piecesWhere (fun c => !c.isAlphanum) name

/-- The first character in upper case, which may be several characters. -/
def capitalize : List Char → List Char
  | [] => []
  | c :: rest => upper c ++ rest

/-- The first character in lower case, which may be several characters. -/
def uncapitalize : List Char → List Char
  | [] => []
  | c :: rest => lower c ++ rest

/-- The words of a name, each capitalized, as in `FirstName`. -/
def pascalCase (name : List Char) : List Char :=
  (words name).flatMap capitalize

/-- The words of a name, all but the first capitalized, as in `firstName`. -/
def camelCase (name : List Char) : List Char :=
  uncapitalize (pascalCase name)

/-- A name in which each character that is not `allowed` is an underscore.  It
is never empty and never starts with an ASCII digit: an underscore comes first. -/
def replaceIllegal (allowed : Char → Bool) (name : List Char) : List Char :=
  match name.map fun c => if allowed c then c else '_' with
  | [] => ['_']
  | c :: rest => if c.isDigit then '_' :: c :: rest else c :: rest

/-- The name between braces, if the path segment is a path parameter. -/
def pathParameter? : List Char → Option (List Char)
  | '\x7b' :: rest =>
    match rest.getLast? with
    | some '\x7d' => some rest.dropLast
    | _ => none
  | _ => none

/-- The words of one segment of a path: `by` and the name for a parameter. -/
def segmentWords (segment : List Char) : List (List Char) :=
  match pathParameter? segment with
  | some name => [['b', 'y'], name]
  | none => [segment]

/-- The words of an operation without a name: its method and its path, so that
`GET` on a pet by its identifier reads as such. -/
def operationWords (method path : List Char) : List (List Char) :=
  method.map Char.toLower :: (piecesWhere (· == '/') path).flatMap segmentWords

end Stencil.Naming
