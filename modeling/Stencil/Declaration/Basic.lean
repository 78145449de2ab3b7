import Stencil.Json.Value

/-!
# API declarations

The eight structures that a declaration is made of.  Every member is optional, and
members that a structure does not know are kept beside the known ones.

Collections that may be absent and those that read as empty when they are absent
are told apart: the former are optional, the latter are plain lists.
-/

namespace Stencil

namespace Declaration

/-- Members that a structure does not know, by their keys. -/
abbrev Unknown := Keyed Json.Value

/-- The description of the elements of a list. -/
structure Items where
  type : Option String := none
  format : Option String := none
  reference : Option String := none
  unknown : Unknown := []

/-- A property of a model. -/
structure Property where
  type : Option String := none
  format : Option String := none
  reference : Option String := none
  items : Option Items := none
  description : Option String := none
  allowedValues : Option (List Json.Value) := none
  defaultValue : Option Json.Value := none
  minimum : Option Json.Value := none
  maximum : Option Json.Value := none
  uniqueItems : Option Bool := none
  unknown : Unknown := []

/-- A model. -/
structure Model where
  id : Option String := none
  description : Option String := none
  required : List String := []
  properties : Written Property := {}
  subTypes : Option (List String) := none
  discriminator : Option String := none
  unknown : Unknown := []

/-- A response of an operation. -/
structure ResponseMessage where
  code : Option Int := none
  message : Option String := none
  responseModel : Option String := none
  unknown : Unknown := []

/-- A parameter of an operation. -/
structure Parameter where
  paramType : Option String := none
  name : Option String := none
  description : Option String := none
  required : Bool := false
  type : Option String := none
  format : Option String := none
  items : Option Items := none
  allowMultiple : Bool := false
  unknown : Unknown := []

/-- The two forms in which an operation is marked as deprecated. -/
inductive Deprecation where
  | flag (isSet : Bool)
  | text (s : String)

namespace Deprecation

/-- Whether the mark says that the operation is deprecated. -/
def isSet : Deprecation → Bool
  | flag isSet => isSet
  | text s => s.toList.map Char.toLower == "true".toList

end Deprecation

/-- An operation on a path. -/
structure Operation where
  method : Option String := none
  nickname : Option String := none
  summary : Option String := none
  notes : Option String := none
  type : Option String := none
  format : Option String := none
  items : Option Items := none
  parameters : List Parameter := []
  responseMessages : List ResponseMessage := []
  produces : Option (List String) := none
  consumes : Option (List String) := none
  deprecated : Option Deprecation := none
  unknown : Unknown := []

/-- A group of operations on one path. -/
structure Api where
  path : Option String := none
  description : Option String := none
  operations : List Operation := []
  unknown : Unknown := []

end Declaration

/-- A whole declaration. -/
structure Declaration where
  swaggerVersion : Option String := none
  apiVersion : Option String := none
  basePath : Option String := none
  resourcePath : Option String := none
  produces : Option (List String) := none
  consumes : Option (List String) := none
  apis : Option (List Declaration.Api) := none
  models : Written Declaration.Model := {}
  unknown : Declaration.Unknown := []

end Stencil
