import Stencil.Declaration.Basic

/-!
# Parents of models

A model is the parent of the models that it lists as its sub types.  Only a model
that exactly one other lists has a parent.
-/

namespace Stencil.Declaration

/-- What the search for a parent finds. -/
inductive ParentSearch where
  | found (name : String)
  | notFound
  /-- Several models list the name. -/
  | ambiguous (names : List String)
deriving DecidableEq, Repr

namespace ParentSearch

/-- The parent, if there is just one. -/
def parent? : ParentSearch → Option String
  | found name => some name
  | _ => none

end ParentSearch

/-- Whether a model lists a name among its sub types. -/
def Model.lists (model : Model) (name : String) : Bool :=
  model.subTypes.any (·.contains name)

/-- The names of the models that list a name, in the order of the declaration. -/
def listing (declaration : Declaration) (name : String) : List String :=
  (declaration.models.entries.filter fun entry => entry.2.lists name).map (·.1)

/-- The parent of a model. -/
def parentOf (declaration : Declaration) (name : String) : ParentSearch :=
  match declaration.listing name with
  | [] => .notFound
  | [parent] => .found parent
  | parents => .ambiguous parents

end Stencil.Declaration
