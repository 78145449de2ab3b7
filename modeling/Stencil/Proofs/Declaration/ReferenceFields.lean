import Stencil.Proofs.Declaration.ReportOrder

/-!
# References of a declaration

Properties and element descriptions have a reference, which is read of the member `ref` of their
object. The references of a declaration are listed in the order in which the walk comes to the
objects.

## Main definitions

* `Declaration.references`: the references of all properties and element descriptions
* `Declaration.referencesIn root`: the members `ref` of the objects of a text

## Main results

* `Declaration.references_of_read`: the references of a declaration are those in its text
-/

namespace Stencil.Declaration

open Json

/-- The reference of the property or the element description at a path. -/
structure ReferenceField where
  path : String
  reference : Option String
deriving DecidableEq, Repr

/-! ## References of the structures -/

/-- The reference of an element description. -/
def Items.references (path : String) : Option Items → List ReferenceField
  | none => []
  | some items => [⟨path ++ ".items", items.reference⟩]

/-- The reference of the elements of a parameter. -/
def Parameter.references (path : String) (parameter : Parameter) : List ReferenceField :=
  Items.references path parameter.items

/-- The references of an operation and of its parameters. -/
def Operation.references (path : String) (operation : Operation) : List ReferenceField :=
  Items.references path operation.items ++
    ofParts (path ++ ".parameters") Parameter.references operation.parameters

/-- The references of the operations of a group. -/
def Api.references (path : String) (api : Api) : List ReferenceField :=
  ofParts (path ++ ".operations") Operation.references api.operations

/-- The reference of a property, then that of its elements. -/
def Property.references (path : String) (property : Property) : List ReferenceField :=
  ⟨path, property.reference⟩ :: Items.references path property.items

/-- The references of the properties of a model. -/
def Model.references (path : String) (model : Model) : List ReferenceField :=
  model.properties.entries.flatMap fun (name, property) =>
    property.references (path ++ ".properties." ++ name)

/-- All references of a declaration, in the order of the warnings about it. -/
def references (declaration : Declaration) : List ReferenceField :=
  ofParts "apis" Api.references (declaration.apis.getD []) ++
    declaration.models.entries.flatMap fun (name, model) => model.references ("models." ++ name)

/-! ## References in a text -/

/-- The text in a node. -/
def textIn : Node → Option String
  | .scalar (.text s) _ => some s
  | _ => none

/-- The member `ref` of an object whose structure has a reference. -/
def Visit.references (v : Visit) : List ReferenceField :=
  if "ref" ∈ v.fields then [⟨v.path, (v.object.member? "ref").bind textIn⟩] else []

/-- The members `ref` of all objects of a text whose structures have a reference. -/
def referencesIn (root : Node) : List ReferenceField := (visits root).flatMap Visit.references

/-! ## Reading references -/

variable {α : Type} {node : Node} {get : α → Option String} {set : α → Option String → α}
  {get_set : ∀ record content, get (set record content) = content}
  {set_get : ∀ record, set record (get record) = record}

theorem textIn_of_text {s : String} (h : text node = .ok s) : textIn node = some s := by
  unfold text at h
  split at h
  · exact congrArg some (Except.ok.inj h)
  · exact absurd h mismatch_ne_ok

/-- A reference is the text in the member `ref`. -/
theorem Visit.references_of {schema : Schema α}
    (hf : .optional "ref" text get set get_set set_get ∈ schema.table) {record : α}
    (h : schema.read node = .ok record) (required : List String) (path : String) :
    (Visit.of schema required path node).references = [⟨path, get record⟩] := by
  have hrel := Schema.rel_member? hf h
  have hmem : "ref" ∈ (Visit.of schema required path node).fields := Schema.key_mem_fields hf
  rw [Visit.references, if_pos hmem]
  change [ReferenceField.mk path ((node.member? "ref").bind textIn)] = _
  revert hrel
  cases node.member? "ref" <;> cases get record <;> rintro (hread | _)
  · rfl
  · rw [Option.bind_some, textIn_of_text hread]

/-- A structure without a reference. -/
theorem Visit.references_of_not_mem {schema : Schema α} (h : "ref" ∉ schema.fields)
    (required : List String) (path : String) (object : Node) :
    (Visit.of schema required path object).references = [] :=
  if_neg h

theorem Items.references_eq {schema : Schema α} {get : α → Option Items}
    {set : α → Option Items → α} {get_set : ∀ record content, get (set record content) = content}
    {set_get : ∀ record, set record (get record) = record}
    (hf : .optional "items" Items.schema.read get set get_set set_get ∈ schema.table) {record : α}
    (h : schema.read node = .ok record) (path : String) :
    Items.references path (get record) = (itemsVisits path node).flatMap Visit.references := by
  have hrel := Schema.rel_member? hf h
  unfold itemsVisits
  revert hrel
  cases node.member? "items" <;> cases get record <;> rintro (hread | _)
  · rfl
  · rw [List.flatMap_singleton, Visit.references_of referenceField_mem hread]
    rfl

theorem Property.references_eq (path : String) {property : Property}
    (h : Property.schema.read node = .ok property) :
    property.references path = (propertyVisits path node).flatMap Visit.references := by
  rw [Property.references, propertyVisits, List.flatMap_cons,
    Visit.references_of referenceField_mem h, Items.references_eq itemsField_mem h]
  rfl

theorem Model.references_eq (path : String) {model : Model}
    (h : Model.schema.read node = .ok model) :
    model.references path = (modelVisits path node).flatMap Visit.references := by
  have hproperties := Schema.forall₂_table propertiesField_mem h
  rw [modelVisits, List.flatMap_cons, Visit.references_of_not_mem (by decide), List.nil_append,
    List.flatMap_assoc]
  exact flatMap_eq hproperties Property.references_eq (path ++ ".properties.")

theorem Parameter.references_eq (path : String) {parameter : Parameter}
    (h : Parameter.schema.read node = .ok parameter) :
    parameter.references path = (parameterVisits path node).flatMap Visit.references := by
  rw [Parameter.references, parameterVisits, List.flatMap_cons,
    Visit.references_of_not_mem (by decide), List.nil_append, Items.references_eq itemsField_mem h]

/-- Responses have no references. -/
theorem responseVisits_references (path : String) (object : Node) :
    (responseVisits path object).flatMap Visit.references = [] := by
  rw [responseVisits, List.flatMap_singleton, Visit.references_of_not_mem (by decide)]

theorem Operation.references_eq (path : String) {operation : Operation}
    (h : Operation.schema.read node = .ok operation) :
    operation.references path = (operationVisits path node).flatMap Visit.references := by
  have hparameters := Schema.forall₂_parts_of_orDefault parametersField_mem h
  have hresponses : ∀ responses : List Node,
      (ofParts (path ++ ".responseMessages") responseVisits responses).flatMap Visit.references =
        [] := by
    intro responses
    simp [ofParts, List.flatMap_assoc, responseVisits_references]
  rw [operationVisits, List.flatMap_append, List.flatMap_append, List.flatMap_cons, hresponses,
    List.append_nil, Visit.references_of_not_mem (by decide), List.nil_append,
    ← Items.references_eq itemsField_mem h,
    ← ofParts_eq_flatMap (fun _ _ => rfl), Operation.references,
    ofParts_eq hparameters Parameter.references_eq]

theorem Api.references_eq (path : String) {api : Api} (h : Api.schema.read node = .ok api) :
    api.references path = (apiVisits path node).flatMap Visit.references := by
  have hoperations := Schema.forall₂_parts_of_orDefault operationsField_mem h
  rw [apiVisits, List.flatMap_cons, Visit.references_of_not_mem (by decide), List.nil_append,
    ← ofParts_eq_flatMap (fun _ _ => rfl), Api.references,
    ofParts_eq hoperations Operation.references_eq]

/-- **The references of a declaration** are the members `ref` of the objects that it is read of. -/
theorem references_of_read {root : Node} {declaration : Declaration}
    (h : schema.read root = .ok declaration) : declaration.references = referencesIn root := by
  have hapis := Schema.forall₂_parts_of_optional apisField_mem h
  have hmodels := Schema.forall₂_table modelsField_mem h
  rw [references, referencesIn, visits, List.flatMap_append, List.flatMap_cons,
    Visit.references_of_not_mem (by decide), List.nil_append,
    ← ofParts_eq_flatMap (fun _ _ => rfl), ofParts_eq hapis Api.references_eq, List.flatMap_assoc]
  exact congrArg _ (flatMap_eq hmodels Model.references_eq "models.")

end Stencil.Declaration
