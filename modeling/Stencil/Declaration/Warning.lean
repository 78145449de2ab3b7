import Stencil.Declaration.Basic

/-!
# Warnings about declarations

A declaration is accepted although members that are required are missing or members
are written that nobody knows.  Each of these is reported with the path of the
object it belongs to, in the order of a walk through the whole declaration.
-/

namespace Stencil.Declaration

/-- What is wrong about a member. -/
inductive Issue where
  /-- A member is written that its object does not know. -/
  | unknown
  /-- A member is required and not there. -/
  | missing
deriving DecidableEq, Repr

/-- A warning about a member of the object at a path. -/
structure Warning where
  path : String
  field : String
  issue : Issue
deriving DecidableEq, Repr

namespace Warning

/-- The wording of a warning. -/
def message (w : Warning) : String :=
  let what := match w.issue with
    | .unknown => "Could not find member '" ++ w.field ++ "'"
    | .missing => "Required member '" ++ w.field ++ "' is missing"
  if w.path.isEmpty then what else what ++ " on " ++ w.path

/-- One warning for each unknown member, in the order of the keys. -/
def ofUnknown (path : String) (unknown : Unknown) : List Warning :=
  unknown.keys.map fun key => ⟨path, key, .unknown⟩

/-- A warning if a required member is missing. -/
def ofMissing {α : Type} (path field : String) : Option α → List Warning
  | some _ => []
  | none => [⟨path, field, .missing⟩]

end Warning

/-- What is listed about the parts of a list, each with its place in the list. -/
def ofParts {α β : Type} (path : String) (about : String → α → List β) (parts : List α) : List β :=
  parts.zipIdx.flatMap fun (part, index) => about (path ++ "[" ++ toString index ++ "]") part

open Warning

/-- The warnings about an element description. -/
def Items.warnings (path : String) : Option Items → List Warning
  | none => []
  | some items => ofUnknown (path ++ ".items") items.unknown

/-- The warnings about a parameter. -/
def Parameter.warnings (path : String) (parameter : Parameter) : List Warning :=
  ofMissing path "paramType" parameter.paramType ++ ofMissing path "name" parameter.name ++
    ofUnknown path parameter.unknown ++ Items.warnings path parameter.items

/-- The warnings about a response. -/
def ResponseMessage.warnings (path : String) (response : ResponseMessage) : List Warning :=
  ofMissing path "code" response.code ++ ofUnknown path response.unknown

/-- The warnings about an operation. -/
def Operation.warnings (path : String) (operation : Operation) : List Warning :=
  ofMissing path "method" operation.method ++ ofUnknown path operation.unknown ++
    Items.warnings path operation.items ++
    ofParts (path ++ ".parameters") Parameter.warnings operation.parameters ++
    ofParts (path ++ ".responseMessages") ResponseMessage.warnings operation.responseMessages

/-- The warnings about a group of operations. -/
def Api.warnings (path : String) (api : Api) : List Warning :=
  ofMissing path "path" api.path ++ ofUnknown path api.unknown ++
    ofParts (path ++ ".operations") Operation.warnings api.operations

/-- The warnings about a property. -/
def Property.warnings (path : String) (property : Property) : List Warning :=
  ofUnknown path property.unknown ++ Items.warnings path property.items

/-- The warnings about a model. -/
def Model.warnings (path : String) (model : Model) : List Warning :=
  ofUnknown path model.unknown ++
    model.properties.entries.flatMap fun (name, property) =>
      property.warnings (path ++ ".properties." ++ name)

/-- The warnings about a declaration. -/
def warnings (declaration : Declaration) : List Warning :=
  ofUnknown "" declaration.unknown ++
    ofParts "apis" Api.warnings (declaration.apis.getD []) ++
    declaration.models.entries.flatMap fun (name, model) => model.warnings ("models." ++ name)

end Stencil.Declaration
