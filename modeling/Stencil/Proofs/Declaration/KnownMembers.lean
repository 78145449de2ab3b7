import Stencil.Proofs.Declaration.SameReading
import Stencil.Proofs.Declaration.Warnings

/-!
# What is read of known members

Two trees agree if the fields of the structures in them agree, down to the values that are read as
they stand. What else is in their objects does not count. Trees that agree are read as
declarations that differ in their unknown members only.

## Main definitions

* `Items.known` and the like, `Declaration.known`: a structure without unknown members, also in its
  parts
* `Items.Agree` and the like, `Declaration.Agree`: two trees differ in unknown members only

## Main results

* `Declaration.readsAlike`: trees that agree are read alike
* `Document.known_eq_of_agree`: so are texts
-/

namespace Stencil

open Json Node

namespace Declaration

/-! ## Structures without unknown members -/

/-- An element description without unknown members. -/
def Items.known (items : Items) : Items := { items with unknown := [] }

/-- A property without unknown members. -/
def Property.known (property : Property) : Property :=
  { property with items := property.items.map Items.known, unknown := [] }

/-- A model without unknown members. -/
def Model.known (model : Model) : Model :=
  { model with properties := model.properties.mapValues Property.known, unknown := [] }

/-- A response without unknown members. -/
def ResponseMessage.known (response : ResponseMessage) : ResponseMessage :=
  { response with unknown := [] }

/-- A parameter without unknown members. -/
def Parameter.known (parameter : Parameter) : Parameter :=
  { parameter with items := parameter.items.map Items.known, unknown := [] }

/-- An operation without unknown members. -/
def Operation.known (operation : Operation) : Operation :=
  { operation with
    items := operation.items.map Items.known
    parameters := operation.parameters.map Parameter.known
    responseMessages := operation.responseMessages.map ResponseMessage.known
    unknown := [] }

/-- A group of operations without unknown members. -/
def Api.known (api : Api) : Api :=
  { api with operations := api.operations.map Operation.known, unknown := [] }

/-- A declaration without unknown members. -/
def known (declaration : Declaration) : Declaration :=
  { declaration with
    apis := declaration.apis.map (·.map Api.known)
    models := declaration.models.mapValues Model.known
    unknown := [] }

/-! ## Trees that agree -/

/-- Element descriptions that agree. -/
def Items.Agree (left right : Node) : Prop :=
  left.Fieldwise right Items.schema.fields fun _ => SameValue

/-- Properties that agree. -/
def Property.Agree (left right : Node) : Prop :=
  left.Fieldwise right Property.schema.fields fun key left right =>
    if key = "items" then NullOr Items.Agree left right else left.SameValue right

/-- Models that agree. -/
def Model.Agree (left right : Node) : Prop :=
  left.Fieldwise right Model.schema.fields fun key left right =>
    if key = "properties" then NullOr (Memberwise Property.Agree) left right
    else left.SameValue right

/-- Responses that agree. -/
def ResponseMessage.Agree (left right : Node) : Prop :=
  left.Fieldwise right ResponseMessage.schema.fields fun _ => SameValue

/-- Parameters that agree. -/
def Parameter.Agree (left right : Node) : Prop :=
  left.Fieldwise right Parameter.schema.fields fun key left right =>
    if key = "items" then NullOr Items.Agree left right else left.SameValue right

/-- Operations that agree. -/
def Operation.Agree (left right : Node) : Prop :=
  left.Fieldwise right Operation.schema.fields fun key left right =>
    if key = "items" then NullOr Items.Agree left right
    else if key = "parameters" then NullOr (Itemwise Parameter.Agree) left right
    else if key = "responseMessages" then NullOr (Itemwise ResponseMessage.Agree) left right
    else left.SameValue right

/-- Groups of operations that agree. -/
def Api.Agree (left right : Node) : Prop :=
  left.Fieldwise right Api.schema.fields fun key left right =>
    if key = "operations" then NullOr (Itemwise Operation.Agree) left right
    else left.SameValue right

/-- Declarations that agree. -/
def Agree (left right : Node) : Prop :=
  left.Fieldwise right schema.fields fun key left right =>
    if key = "apis" then NullOr (Itemwise Api.Agree) left right
    else if key = "models" then NullOr (Memberwise Model.Agree) left right
    else left.SameValue right

instance : DecidableRel Items.Agree := fun left right =>
  inferInstanceAs (Decidable (left.Fieldwise right _ _))

instance : DecidableRel Property.Agree := fun left right =>
  inferInstanceAs (Decidable (left.Fieldwise right _ _))

instance : DecidableRel Model.Agree := fun left right =>
  inferInstanceAs (Decidable (left.Fieldwise right _ _))

instance : DecidableRel ResponseMessage.Agree := fun left right =>
  inferInstanceAs (Decidable (left.Fieldwise right _ _))

instance : DecidableRel Parameter.Agree := fun left right =>
  inferInstanceAs (Decidable (left.Fieldwise right _ _))

instance : DecidableRel Operation.Agree := fun left right =>
  inferInstanceAs (Decidable (left.Fieldwise right _ _))

instance : DecidableRel Api.Agree := fun left right =>
  inferInstanceAs (Decidable (left.Fieldwise right _ _))

instance : DecidableRel Agree := fun left right =>
  inferInstanceAs (Decidable (left.Fieldwise right _ _))

/-! ## Reading trees that agree

Fields with structures in them are known as these are, and the others as the value stands. -/

theorem Items.readsAlike : ReadsAlike Items.Agree Items.schema.read Items.known := by
  refine Schema.ReadsFieldsAlike.readsAlike ⟨?_, fun _ _ => rfl⟩
  simp only [schema, List.forall_mem_cons]
  and_intros
  all_goals first | exact .of_value fun _ _ => rfl | exact List.forall_mem_nil _

theorem Property.readsAlike : ReadsAlike Property.Agree Property.schema.read Property.known := by
  have hitems : itemsField.ReadsAlike (NullOr Items.Agree) known :=
    ⟨_, fun _ _ => rfl, Items.readsAlike.optional⟩
  refine Schema.ReadsFieldsAlike.readsAlike ⟨?_, fun _ _ => rfl⟩
  simp only [schema, List.forall_mem_cons, String.reduceEq, reduceIte]
  and_intros
  all_goals first | exact hitems | exact .of_value fun _ _ => rfl | exact List.forall_mem_nil _

theorem Model.readsAlike : ReadsAlike Model.Agree Model.schema.read Model.known := by
  have hproperties : propertiesField.ReadsAlike (NullOr (Memberwise Property.Agree)) known :=
    ⟨_, fun _ _ => rfl, Property.readsAlike.mapOf.orDefault {}⟩
  refine Schema.ReadsFieldsAlike.readsAlike ⟨?_, fun _ _ => rfl⟩
  simp only [schema, List.forall_mem_cons, String.reduceEq, reduceIte]
  and_intros
  all_goals first | exact hproperties | exact .of_value fun _ _ => rfl | exact List.forall_mem_nil _

theorem ResponseMessage.readsAlike :
    ReadsAlike ResponseMessage.Agree ResponseMessage.schema.read ResponseMessage.known := by
  refine Schema.ReadsFieldsAlike.readsAlike ⟨?_, fun _ _ => rfl⟩
  simp only [schema, List.forall_mem_cons]
  and_intros
  all_goals first | exact .of_value fun _ _ => rfl | exact List.forall_mem_nil _

theorem Parameter.readsAlike :
    ReadsAlike Parameter.Agree Parameter.schema.read Parameter.known := by
  have hitems : itemsField.ReadsAlike (NullOr Items.Agree) known :=
    ⟨_, fun _ _ => rfl, Items.readsAlike.optional⟩
  refine Schema.ReadsFieldsAlike.readsAlike ⟨?_, fun _ _ => rfl⟩
  simp only [schema, List.forall_mem_cons, String.reduceEq, reduceIte]
  and_intros
  all_goals first | exact hitems | exact .of_value fun _ _ => rfl | exact List.forall_mem_nil _

theorem Operation.readsAlike :
    ReadsAlike Operation.Agree Operation.schema.read Operation.known := by
  have hitems : itemsField.ReadsAlike (NullOr Items.Agree) known :=
    ⟨_, fun _ _ => rfl, Items.readsAlike.optional⟩
  have hparameters : parametersField.ReadsAlike (NullOr (Itemwise Parameter.Agree)) known :=
    ⟨_, fun _ _ => rfl, Parameter.readsAlike.listOf.orDefault []⟩
  have hresponseMessages :
      responseMessagesField.ReadsAlike (NullOr (Itemwise ResponseMessage.Agree)) known :=
    ⟨_, fun _ _ => rfl, ResponseMessage.readsAlike.listOf.orDefault []⟩
  refine Schema.ReadsFieldsAlike.readsAlike ⟨?_, fun _ _ => rfl⟩
  simp only [schema, List.forall_mem_cons, String.reduceEq, reduceIte]
  and_intros
  all_goals first
    | exact hitems
    | exact hparameters
    | exact hresponseMessages
    | exact .of_value fun _ _ => rfl
    | exact List.forall_mem_nil _

theorem Api.readsAlike : ReadsAlike Api.Agree Api.schema.read Api.known := by
  have hoperations : operationsField.ReadsAlike (NullOr (Itemwise Operation.Agree)) known :=
    ⟨_, fun _ _ => rfl, Operation.readsAlike.listOf.orDefault []⟩
  refine Schema.ReadsFieldsAlike.readsAlike ⟨?_, fun _ _ => rfl⟩
  simp only [schema, List.forall_mem_cons, String.reduceEq, reduceIte]
  and_intros
  all_goals first | exact hoperations | exact .of_value fun _ _ => rfl | exact List.forall_mem_nil _

theorem readsAlike : ReadsAlike Agree schema.read known := by
  have hapis : apisField.ReadsAlike (NullOr (Itemwise Api.Agree)) known :=
    ⟨_, fun _ _ => rfl, Api.readsAlike.listOf.optional⟩
  have hmodels : modelsField.ReadsAlike (NullOr (Memberwise Model.Agree)) known :=
    ⟨_, fun _ _ => rfl, Model.readsAlike.mapOf.orDefault {}⟩
  refine Schema.ReadsFieldsAlike.readsAlike ⟨?_, fun _ _ => rfl⟩
  simp only [schema, List.forall_mem_cons, String.reduceEq, reduceIte]
  and_intros
  all_goals first
    | exact hapis
    | exact hmodels
    | exact .of_value fun _ _ => rfl
    | exact List.forall_mem_nil _

end Declaration

/-- **Documents** in texts that agree differ in unknown members only. -/
theorem Document.known_eq_of_agree {left right : String} {document other : Document}
    (h : Declaration.Agree (TextTree.read (plain left)).root (TextTree.read (plain right)).root)
    (hleft : parse left = .ok document) (hright : parse right = .ok other) :
    document.declaration.known = other.declaration.known :=
  Declaration.readsAlike h (read_root_of_parse hleft) (read_root_of_parse hright)

end Stencil
