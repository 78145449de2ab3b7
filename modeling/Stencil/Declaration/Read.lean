import Stencil.Declaration.Basic
import Stencil.Declaration.Schema

/-!
# Reading declarations

The schema of each of the eight structures of a declaration, and the reading of a
whole text.
-/

namespace Stencil.Declaration

open Stencil.Json

namespace Items

/-- The reference of an element description. -/
@[reducible] def referenceField : Field Items :=
  .optional "ref" text (·.reference) ({ · with reference := · })

/-- The schema of element descriptions. -/
def schema : Schema Items where
  name := "Items"
  table := [
    .optional "type" text (·.type) ({ · with type := · }),
    .optional "format" text (·.format) ({ · with format := · }),
    referenceField]
  empty := {}
  unknown := (·.unknown)
  setUnknown := ({ · with unknown := · })

theorem referenceField_mem : referenceField ∈ schema.table := by simp [schema]

end Items

namespace Property

/-- The reference of a property. -/
@[reducible] def referenceField : Field Property :=
  .optional "ref" text (·.reference) ({ · with reference := · })

/-- The element description of a property. -/
@[reducible] def itemsField : Field Property :=
  .optional "items" Items.schema.read (·.items) ({ · with items := · })

/-- The schema of properties. -/
def schema : Schema Property where
  name := "Property"
  table := [
    .optional "type" text (·.type) ({ · with type := · }),
    .optional "format" text (·.format) ({ · with format := · }),
    referenceField,
    itemsField,
    .optional "description" text (·.description) ({ · with description := · }),
    .optional "enum" (listOf anything) (·.allowedValues) ({ · with allowedValues := · }),
    .optional "defaultValue" anything (·.defaultValue) ({ · with defaultValue := · }),
    .optional "minimum" anything (·.minimum) ({ · with minimum := · }),
    .optional "maximum" anything (·.maximum) ({ · with maximum := · }),
    .optional "uniqueItems" boolean (·.uniqueItems) ({ · with uniqueItems := · })]
  empty := {}
  unknown := (·.unknown)
  setUnknown := ({ · with unknown := · })

theorem referenceField_mem : referenceField ∈ schema.table := by simp [schema]

theorem itemsField_mem : itemsField ∈ schema.table := by simp [schema]

end Property

namespace Model

/-- The properties of a model. -/
@[reducible] def propertiesField : Field Model :=
  .orDefault "properties" {} (mapOf Property.schema.read) (·.properties)
    ({ · with properties := · })

/-- The schema of models. -/
def schema : Schema Model where
  name := "ModelDefinition"
  table := [
    .optional "id" text (·.id) ({ · with id := · }),
    .optional "description" text (·.description) ({ · with description := · }),
    .orDefault "required" [] (listOf text) (·.required) ({ · with required := · }),
    propertiesField,
    .optional "subTypes" (listOf text) (·.subTypes) ({ · with subTypes := · }),
    .optional "discriminator" text (·.discriminator) ({ · with discriminator := · })]
  empty := {}
  unknown := (·.unknown)
  setUnknown := ({ · with unknown := · })

theorem propertiesField_mem : propertiesField ∈ schema.table := by simp [schema]

end Model

namespace ResponseMessage

/-- The code of a response. -/
@[reducible] def codeField : Field ResponseMessage :=
  .optional "code" integer (·.code) ({ · with code := · })

/-- The schema of responses. -/
def schema : Schema ResponseMessage where
  name := "ResponseMessage"
  table := [
    codeField,
    .optional "message" text (·.message) ({ · with message := · }),
    .optional "responseModel" text (·.responseModel) ({ · with responseModel := · })]
  empty := {}
  unknown := (·.unknown)
  setUnknown := ({ · with unknown := · })

theorem codeField_mem : codeField ∈ schema.table := by simp [schema]

end ResponseMessage

namespace Parameter

/-- Where a parameter stands. -/
@[reducible] def paramTypeField : Field Parameter :=
  .optional "paramType" text (·.paramType) ({ · with paramType := · })

/-- The name of a parameter. -/
@[reducible] def nameField : Field Parameter :=
  .optional "name" text (·.name) ({ · with name := · })

/-- The element description of a parameter. -/
@[reducible] def itemsField : Field Parameter :=
  .optional "items" Items.schema.read (·.items) ({ · with items := · })

/-- The schema of parameters. -/
def schema : Schema Parameter where
  name := "Parameter"
  table := [
    paramTypeField,
    nameField,
    .optional "description" text (·.description) ({ · with description := · }),
    .orDefault "required" false boolean (·.required) ({ · with required := · }),
    .optional "type" text (·.type) ({ · with type := · }),
    .optional "format" text (·.format) ({ · with format := · }),
    itemsField,
    .orDefault "allowMultiple" false boolean (·.allowMultiple) ({ · with allowMultiple := · })]
  empty := {}
  unknown := (·.unknown)
  setUnknown := ({ · with unknown := · })

theorem paramTypeField_mem : paramTypeField ∈ schema.table := by simp [schema]

theorem nameField_mem : nameField ∈ schema.table := by simp [schema]

theorem itemsField_mem : itemsField ∈ schema.table := by simp [schema]

end Parameter

/-- A mark of deprecation.  The value is read as a whole before its form is looked
at, and a value of no known form is a complaint without a place. -/
def deprecation : Reader Deprecation := fun node => do
  match ← anything node with
  | .boolean b => return .flag b
  | .text s => return .text s
  | _ => .error ⟨.noVariant "Deprecated", none⟩

namespace Operation

/-- The method of an operation. -/
@[reducible] def methodField : Field Operation :=
  .optional "method" text (·.method) ({ · with method := · })

/-- The element description of an operation. -/
@[reducible] def itemsField : Field Operation :=
  .optional "items" Items.schema.read (·.items) ({ · with items := · })

/-- The parameters of an operation. -/
@[reducible] def parametersField : Field Operation :=
  .orDefault "parameters" [] (listOf Parameter.schema.read) (·.parameters)
    ({ · with parameters := · })

/-- The responses of an operation. -/
@[reducible] def responseMessagesField : Field Operation :=
  .orDefault "responseMessages" [] (listOf ResponseMessage.schema.read) (·.responseMessages)
    ({ · with responseMessages := · })

/-- The schema of operations. -/
def schema : Schema Operation where
  name := "Operation"
  table := [
    methodField,
    .optional "nickname" text (·.nickname) ({ · with nickname := · }),
    .optional "summary" text (·.summary) ({ · with summary := · }),
    .optional "notes" text (·.notes) ({ · with notes := · }),
    .optional "type" text (·.type) ({ · with type := · }),
    .optional "format" text (·.format) ({ · with format := · }),
    itemsField,
    parametersField,
    responseMessagesField,
    .optional "produces" (listOf text) (·.produces) ({ · with produces := · }),
    .optional "consumes" (listOf text) (·.consumes) ({ · with consumes := · }),
    .optional "deprecated" deprecation (·.deprecated) ({ · with deprecated := · })]
  empty := {}
  unknown := (·.unknown)
  setUnknown := ({ · with unknown := · })

theorem methodField_mem : methodField ∈ schema.table := by simp [schema]

theorem itemsField_mem : itemsField ∈ schema.table := by simp [schema]

theorem parametersField_mem : parametersField ∈ schema.table := by simp [schema]

theorem responseMessagesField_mem : responseMessagesField ∈ schema.table := by simp [schema]

end Operation

namespace Api

/-- The path of a group of operations. -/
@[reducible] def pathField : Field Api := .optional "path" text (·.path) ({ · with path := · })

/-- The operations of a group. -/
@[reducible] def operationsField : Field Api :=
  .orDefault "operations" [] (listOf Operation.schema.read) (·.operations)
    ({ · with operations := · })

/-- The schema of groups of operations. -/
def schema : Schema Api where
  name := "Api"
  table := [
    pathField,
    .optional "description" text (·.description) ({ · with description := · }),
    operationsField]
  empty := {}
  unknown := (·.unknown)
  setUnknown := ({ · with unknown := · })

theorem pathField_mem : pathField ∈ schema.table := by simp [schema]

theorem operationsField_mem : operationsField ∈ schema.table := by simp [schema]

end Api

/-- The groups of operations of a declaration. -/
@[reducible] def apisField : Field Declaration :=
  .optional "apis" (listOf Api.schema.read) (·.apis) ({ · with apis := · })

/-- The models of a declaration. -/
@[reducible] def modelsField : Field Declaration :=
  .orDefault "models" {} (mapOf Model.schema.read) (·.models) ({ · with models := · })

/-- The schema of whole declarations. -/
def schema : Schema Declaration where
  name := "ApiDeclaration"
  table := [
    .optional "swaggerVersion" text (·.swaggerVersion) ({ · with swaggerVersion := · }),
    .optional "apiVersion" text (·.apiVersion) ({ · with apiVersion := · }),
    .optional "basePath" text (·.basePath) ({ · with basePath := · }),
    .optional "resourcePath" text (·.resourcePath) ({ · with resourcePath := · }),
    .optional "produces" (listOf text) (·.produces) ({ · with produces := · }),
    .optional "consumes" (listOf text) (·.consumes) ({ · with consumes := · }),
    apisField,
    modelsField]
  empty := {}
  unknown := (·.unknown)
  setUnknown := ({ · with unknown := · })

theorem apisField_mem : apisField ∈ schema.table := by simp [schema]

theorem modelsField_mem : modelsField ∈ schema.table := by simp [schema]

/-- The declaration in a tree, or its first fault. -/
def ofTree (tree : TextTree) : Except Fault Declaration :=
  match schema.read tree.root, tree.trailing with
  | .error complaint, _ => .error complaint.toFault
  | .ok _, some fault => .error fault
  | .ok declaration, none => .ok declaration

/-- The declaration in a text, or the first fault of the text. -/
def read (text : String) : Except Fault Declaration := ofTree (TextTree.read text)

end Stencil.Declaration
