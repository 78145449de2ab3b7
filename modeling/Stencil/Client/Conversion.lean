import Stencil.Client.Descriptor
import Stencil.Client.Names
import Stencil.Declaration.Parent
import Stencil.Naming.Words

/-!
# Converting declarations

From a declaration and a language to descriptors.  Descriptors keep the order of the
declaration, one for each model, property, group, operation and parameter.

## Main definitions

* `models`, `apis`: the descriptors under a table of names.
* `Converter`: a declaration and a language, whose table is made once on request and
  otherwise for each reading.
-/

namespace Stencil

/-- The part of an element description that says what the elements are. -/
def Declaration.Items.itemType (items : Declaration.Items) : ItemType :=
  ⟨items.type, items.format, items.reference⟩

namespace Client

open Stencil.Naming

/-! ## Kinds -/

/-- The kind of a property. -/
def propertyKind (p : Declaration.Property) : Kind :=
  Kind.resolve p.type p.format p.reference (p.items.map (·.itemType))

/-- The kind of what an operation returns: nothing, if it has no type. -/
def returnKind (o : Declaration.Operation) : Kind :=
  match o.type with
  | none => .void
  | some type => Kind.resolve type o.format none (o.items.map (·.itemType))

/-- The kind of a parameter.  One that may be given several times is a list. -/
def parameterKind (p : Declaration.Parameter) : Kind :=
  let kind := Kind.resolve p.type p.format none (p.items.map (·.itemType))
  if p.allowMultiple && !kind.isList then .list kind else kind

/-! ## Models -/

variable (language : Language) (names : NameTable)

/-- The type of values of a kind. -/
def typeOf (kind : Kind) : String := language.typeName (names.className language) kind

/-- An allowed value as text: texts as they are, other values as JSON. -/
def allowedText : Json.Value → String
  | .text s => s
  | value => value.write

/-- The descriptor of a property. -/
def propertyDescriptor (modelName : String) (model : Declaration.Model) (jsonName : String)
    (property : Declaration.Property) : PropertyDescriptor :=
  let kind := propertyKind property
  { name := (names.propertyName? modelName jsonName).getD
      (language.propertyIdentifier jsonName (names.className language modelName))
    jsonName
    type := typeOf language names kind
    description := property.description
    required := model.required.contains jsonName
    isList := kind.isList
    isReference := kind.isReference
    allowedValues := (property.allowedValues.getD []).map allowedText }

/-- The descriptor of a model. -/
def modelDescriptor (declaration : Declaration) (name : String) (model : Declaration.Model) :
    ModelDescriptor :=
  let className := names.className language name
  { name := className
    declaredName := name
    fileName := language.fileStem className
    description := model.description
    properties := model.properties.map fun (jsonName, property) =>
      propertyDescriptor language names name model jsonName property
    parent := (declaration.parentOf name).parent?.map (names.className language)
    subTypes := (model.subTypes.getD []).map (names.className language)
    discriminator := model.discriminator }

/-- The descriptors of all models. -/
def models (declaration : Declaration) : List ModelDescriptor :=
  declaration.models.map fun (name, model) =>
    modelDescriptor language names declaration name model

/-! ## Operations -/

/-- The words that an operation is named after. -/
def nameWords (path : String) (operation : Declaration.Operation) : List String :=
  let nickname := operation.nickname.getD ""
  if nickname.isEmpty then
    (operationWords (operation.method.getD "").toList path.toList).map String.ofList
  else [nickname]

/-- The descriptors of parameters, whose names are unique among them. -/
def parameterDescriptors (scope : Scope) :
    List Declaration.Parameter → List ParameterDescriptor
  | [] => []
  | p :: rest =>
    let jsonName := p.name.getD ""
    let (name, scope) := scope.claim (language.parameterIdentifier jsonName)
    { name
      jsonName
      type := typeOf language names (parameterKind p)
      location := String.ofList ((p.paramType.getD "").toList.map Char.toLower)
      required := p.required
      description := p.description } :: parameterDescriptors scope rest

/-- The descriptors of the operations on a path, and the scope of names behind them. -/
def operationDescriptors (path : String) (scope : Scope) :
    List Declaration.Operation → List OperationDescriptor × Scope
  | [] => ([], scope)
  | o :: rest =>
    let (name, scope) := scope.claim (language.methodIdentifier (nameWords path o))
    let (others, scope) := operationDescriptors path scope rest
    ({ name
       method := String.ofList ((o.method.getD "").toList.map Char.toUpper)
       path
       returnType := typeOf language names (returnKind o)
       summary := o.summary
       notes := o.notes
       deprecated := o.deprecated.any (·.isSet)
       parameters := parameterDescriptors language names ⟨false, []⟩ o.parameters } :: others,
      scope)

/-- The descriptors of groups, whose operations share one scope of names. -/
def apiDescriptors (scope : Scope) : List Declaration.Api → List ApiDescriptor
  | [] => []
  | api :: rest =>
    let path := api.path.getD ""
    let (operations, scope) := operationDescriptors language names path scope api.operations
    { path, description := api.description, operations } :: apiDescriptors scope rest

/-- The descriptors of all groups of operations. -/
def apis (declaration : Declaration) : List ApiDescriptor :=
  apiDescriptors language names ⟨false, []⟩ (declaration.apis.getD [])

end Client

/-! ## Converters -/

/-- A declaration on its way into a language. -/
structure Converter where
  language : Language
  declaration : Declaration
  /-- The names, once they are registered. -/
  registered : Option Client.NameTable := none

namespace Converter

/-- The converter with its names registered. -/
def register (c : Converter) : Converter :=
  match c.registered with
  | some _ => c
  | none => { c with registered := some (Client.NameTable.build c.language c.declaration) }

/-- The names that are registered, or else the ones that would be. -/
def names (c : Converter) : Client.NameTable :=
  c.registered.getD (Client.NameTable.build c.language c.declaration)

/-- The descriptors of all models. -/
def models (c : Converter) : List Client.ModelDescriptor :=
  Client.models c.language c.names c.declaration

/-- The descriptors of all groups of operations. -/
def apis (c : Converter) : List Client.ApiDescriptor :=
  Client.apis c.language c.names c.declaration

end Converter

end Stencil
