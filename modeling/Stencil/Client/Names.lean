import Stencil.Declaration.Basic
import Stencil.Language.Basic
import Stencil.Naming.Unique

/-!
# Names of classes and properties

One table for a whole declaration says what each declared model is called in the
generated code, and what each of its properties is called.

Classes that would share a file on a file system without case get different names:
the number that makes the file name unique is put behind the name of the class too.
Properties have to differ within their class only.
-/

namespace Stencil.Client

open Stencil.Naming

/-- The names of a declaration's classes and properties. -/
structure NameTable where
  /-- The class of each declared model. -/
  classes : List (String × String)
  /-- The properties of each declared model. -/
  properties : List (String × List (String × String))

namespace NameTable

/-- What a text has behind its first `count` characters. -/
def behind (count : Nat) (s : String) : String := String.ofList (s.toList.drop count)

/-- The classes of models that are named one after the other. -/
def classNames (language : Language) (stems : Scope) : List String → List (String × String)
  | [] => []
  | model :: models =>
    let candidate := language.typeIdentifier model
    let stem := language.fileStem candidate
    let (granted, stems) := stems.claim stem
    (model, candidate ++ behind stem.toList.length granted) ::
      classNames language stems models

/-- The class of a model.  A name that is not declared is made an identifier, without
a look at the classes there are. -/
def lookUp (language : Language) (classes : List (String × String)) (model : String) : String :=
  (classes.lookup model).getD (language.typeIdentifier model)

/-- The properties of a model, by their names on the wire. -/
def propertyNames (language : Language) (owner : String) (jsonNames : List String) :
    List (String × String) :=
  jsonNames.zip
    (Scope.claimAll ⟨false, []⟩
      (jsonNames.map fun jsonName => language.propertyIdentifier jsonName owner))

/-- The table for a declaration. -/
def build (language : Language) (declaration : Declaration) : NameTable :=
  let classes := classNames language ⟨true, []⟩ declaration.models.keys
  { classes
    properties := declaration.models.map fun (name, model) =>
      (name, propertyNames language (lookUp language classes name) model.properties.keys) }

/-- The class of a model, declared or not. -/
def className (names : NameTable) (language : Language) (model : String) : String :=
  lookUp language names.classes model

/-- The name of a property of a declared model. -/
def propertyName? (names : NameTable) (model jsonName : String) : Option String := do
  (← names.properties.lookup model).lookup jsonName

end NameTable

end Stencil.Client
