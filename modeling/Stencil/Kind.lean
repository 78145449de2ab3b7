/-!
# Kinds of values

What a property, a parameter or an operation carries, independent of a target
language: a primitive with its format, a list of a kind, a model by its declared
name, no value at all, or something without type information.
-/

namespace Stencil

/-- The element description of a list type, as declared. -/
structure ItemType where
  type : Option String := none
  format : Option String := none
  reference : Option String := none

/-- What a value is, in no particular language. -/
inductive Kind where
  /-- A primitive type and its optional refinement, such as `int64`. -/
  | primitive (name : String) (format : Option String)
  /-- A list of values of one kind. -/
  | list (element : Kind)
  /-- A model, by its declared name. -/
  | model (name : String)
  /-- No value. -/
  | void
  /-- No type information. -/
  | unknown
deriving DecidableEq, Repr

namespace Kind

/-- The type names that are not models. -/
def primitiveNames : List String :=
  ["integer", "number", "string", "boolean", "File", "int", "long", "float", "double", "byte",
    "date", "dateTime", "date-time"]

/-- The kind of a value that is not described by elements.  A reference wins over
a type, and a type that is not primitive names a model. -/
def ofType (type format reference : Option String) (element : Kind) : Kind :=
  match reference, type with
  | some name, _ => .model name
  | none, none => .unknown
  | none, some "void" => .void
  | none, some "array" => .list element
  | none, some name => if name ∈ primitiveNames then .primitive name format else .model name

/-- The kind of the elements of a list.  Element descriptions do not nest, so an
array of arrays ends in elements without type information. -/
def ofItems : Option ItemType → Kind
  | none => .unknown
  | some items => ofType items.type items.format items.reference .unknown

/-- The kind that a declaration describes. -/
def resolve (type format reference : Option String) (items : Option ItemType) : Kind :=
  ofType type format reference (ofItems items)

/-- Whether the value is a list. -/
def isList : Kind → Bool
  | list _ => true
  | _ => false

/-- Whether the value is a model or a list, however deep, of models. -/
def isReference : Kind → Bool
  | model _ => true
  | list element => element.isReference
  | _ => false

end Kind

end Stencil
