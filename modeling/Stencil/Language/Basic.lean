import Stencil.Kind

/-!
# Target languages

What the generator has to know about a language: the extension of its files, how
the names of a declaration become identifiers, and how types are written.
-/

namespace Stencil

/-- A language that client code can be generated for. -/
structure Language where
  /-- The extension of generated files, without the dot. -/
  extension : String
  /-- The identifier of the class for a model. -/
  typeIdentifier : (name : String) → String
  /-- The identifier of a property, by its name on the wire and the identifier
  of the class that owns it. -/
  propertyIdentifier : (jsonName owner : String) → String
  /-- The identifier of a parameter. -/
  parameterIdentifier : (name : String) → String
  /-- The identifier of an operation, by the words of its name. -/
  methodIdentifier : (words : List String) → String
  /-- The file name, without extension, for a class. -/
  fileStem : (typeName : String) → String
  /-- The type of values of a kind that is not made of other kinds. -/
  plainType : Kind → String
  /-- The type of lists with the given type of elements. -/
  listType : (element : String) → String

namespace Language

/-- The type of values of a kind, where `modelName` gives the class for a model. -/
def typeName (language : Language) (modelName : String → String) : Kind → String
  | .list element => language.listType (language.typeName modelName element)
  | .model name => modelName name
  | kind => language.plainType kind

end Language

end Stencil
