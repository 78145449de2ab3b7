import Stencil.Json.Value

/-!
# Descriptors

What the templates see of a declaration: classes with their properties, and groups
of operations with their parameters, all with identifiers and types of the target
language.

A descriptor is shown to a template as an object; the names of its members are the
names that templates use.
-/

namespace Stencil.Client

open Stencil.Json (Value)

/-- A property of a class. -/
structure PropertyDescriptor where
  name : String
  jsonName : String
  type : String
  description : Option String
  required : Bool
  isList : Bool
  isReference : Bool
  allowedValues : List String
deriving DecidableEq, Repr

/-- A class for a model. -/
structure ModelDescriptor where
  name : String
  declaredName : String
  fileName : String
  description : Option String
  properties : List PropertyDescriptor
  parent : Option String
  subTypes : List String
  discriminator : Option String
deriving DecidableEq, Repr

/-- A parameter of an operation. -/
structure ParameterDescriptor where
  name : String
  jsonName : String
  type : String
  location : String
  required : Bool
  description : Option String
deriving DecidableEq, Repr

/-- An operation. -/
structure OperationDescriptor where
  name : String
  method : String
  path : String
  returnType : String
  summary : Option String
  notes : Option String
  deprecated : Bool
  parameters : List ParameterDescriptor
deriving DecidableEq, Repr

/-- A group of operations. -/
structure ApiDescriptor where
  path : String
  description : Option String
  operations : List OperationDescriptor
deriving DecidableEq, Repr

/-! ## Views -/

/-- A text or null. -/
def textOrNull : Option String → Value
  | some s => .text s
  | none => .null

/-- An object with the given members. -/
def record (members : List (String × Value)) : Value := .object (Keyed.ofList members)

/-- A property as templates see it. -/
def PropertyDescriptor.view (p : PropertyDescriptor) : Value :=
  record [
    ("Name", .text p.name),
    ("JsonName", .text p.jsonName),
    ("Type", .text p.type),
    ("Description", textOrNull p.description),
    ("Required", .boolean p.required),
    ("IsArray", .boolean p.isList),
    ("IsReference", .boolean p.isReference),
    ("Enum", .list (p.allowedValues.map .text))]

/-- A class as templates see it. -/
def ModelDescriptor.view (m : ModelDescriptor) : Value :=
  record [
    ("Name", .text m.name),
    ("OriginalName", .text m.declaredName),
    ("FileName", .text m.fileName),
    ("Description", textOrNull m.description),
    ("Properties", .list (m.properties.map PropertyDescriptor.view)),
    ("Parent", textOrNull m.parent),
    ("SubTypes", .list (m.subTypes.map .text)),
    ("Discriminator", textOrNull m.discriminator)]

/-- A parameter as templates see it. -/
def ParameterDescriptor.view (p : ParameterDescriptor) : Value :=
  record [
    ("Name", .text p.name),
    ("JsonName", .text p.jsonName),
    ("Type", .text p.type),
    ("Location", .text p.location),
    ("Required", .boolean p.required),
    ("Description", textOrNull p.description)]

/-- An operation as templates see it. -/
def OperationDescriptor.view (o : OperationDescriptor) : Value :=
  record [
    ("Name", .text o.name),
    ("Method", .text o.method),
    ("Path", .text o.path),
    ("ReturnType", .text o.returnType),
    ("Summary", textOrNull o.summary),
    ("Notes", textOrNull o.notes),
    ("Deprecated", .boolean o.deprecated),
    ("Parameters", .list (o.parameters.map ParameterDescriptor.view))]

/-- A group of operations as templates see it. -/
def ApiDescriptor.view (a : ApiDescriptor) : Value :=
  record [
    ("Path", .text a.path),
    ("Description", textOrNull a.description),
    ("Operations", .list (a.operations.map OperationDescriptor.view))]

end Stencil.Client
