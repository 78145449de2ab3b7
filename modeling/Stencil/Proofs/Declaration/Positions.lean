import Stencil.Declaration.Read
import Stencil.Proofs.Declaration.Reading

/-!
# Where structures stand

An object of a text is read as one of the eight structures if it stands where this structure is
looked for: below the root, at the key of the field that holds it.

## Main definitions

* `Part`: the eight structures
* `Holds root part node`: what a part of a tree is read as
-/

namespace Stencil.Declaration

open Json Node

/-- The structures that a declaration consists of. -/
inductive Part where
  | declaration
  | api
  | operation
  | parameter
  | responseMessage
  | model
  | property
  | items

namespace Part

/-- The fields of a structure. -/
def fields : Part → List String
  | declaration => schema.fields
  | api => Api.schema.fields
  | operation => Operation.schema.fields
  | parameter => Parameter.schema.fields
  | responseMessage => ResponseMessage.schema.fields
  | model => Model.schema.fields
  | property => Property.schema.fields
  | items => Items.schema.fields

end Part

/-- What a tree below the root of a declaration is read as. -/
inductive Holds (root : Node) : Part → Node → Prop
  | declaration : Holds root .declaration root
  | api {node list api} : Holds root .declaration node → ("apis", list) ∈ node.members →
    api ∈ list.items → Holds root .api api
  | model {node table name model} : Holds root .declaration node →
    ("models", table) ∈ node.members → (name, model) ∈ table.members → Holds root .model model
  | operation {node list operation} : Holds root .api node → ("operations", list) ∈ node.members →
    operation ∈ list.items → Holds root .operation operation
  | operationItems {node items} : Holds root .operation node → ("items", items) ∈ node.members →
    Holds root .items items
  | parameter {node list parameter} : Holds root .operation node →
    ("parameters", list) ∈ node.members → parameter ∈ list.items → Holds root .parameter parameter
  | responseMessage {node list response} : Holds root .operation node →
    ("responseMessages", list) ∈ node.members → response ∈ list.items →
    Holds root .responseMessage response
  | parameterItems {node items} : Holds root .parameter node → ("items", items) ∈ node.members →
    Holds root .items items
  | property {node table name property} : Holds root .model node →
    ("properties", table) ∈ node.members → (name, property) ∈ table.members →
    Holds root .property property
  | propertyItems {node items} : Holds root .property node → ("items", items) ∈ node.members →
    Holds root .items items

end Stencil.Declaration
