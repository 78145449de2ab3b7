import Stencil.Proofs.Client.Parents
import Stencil.Proofs.Declaration.KnownMembers

/-!
# Descriptors of known members

A declaration without its unknown members has the same descriptors: no name, kind, parent or other
part of a descriptor is made of an unknown member.

## Main results

* `Client.NameTable.build_known`: the names of classes and properties
* `Converter.models_eq_of_known_eq`, `Converter.apis_eq_of_known_eq`: the descriptors
-/

namespace Stencil

open Declaration

theorem Written.keys_mapValues {α β : Type} (f : α → β) (written : Written α) :
    (written.mapValues f).keys = written.keys := by
  rw [keys, mapValues, List.map_map]
  rfl

/-- What does not depend on what `f` takes away can be made before it is taken away. -/
theorem Written.map_mapValues {α β γ : Type} {f : α → β} {g : String × β → γ}
    {g' : String × α → γ} (h : ∀ key value, g (key, f value) = g' (key, value))
    (written : Written α) : (written.mapValues f).map g = written.map g' := by
  rw [map, map, mapValues, List.map_map]
  exact List.map_congr_left fun entry _ => h entry.1 entry.2

/-! ## Groups and parents of a declaration -/

theorem Declaration.getD_apis_known (declaration : Declaration) :
    declaration.known.apis.getD [] = (declaration.apis.getD []).map Api.known := by
  rw [known]
  cases declaration.apis <;> rfl

theorem Declaration.parentOf_known (declaration : Declaration) (name : String) :
    declaration.known.parentOf name = declaration.parentOf name := by
  have hlisting : declaration.known.listing name = declaration.listing name := by
    simp only [listing, known, Written.mapValues, List.filter_map, List.map_map]
    rfl
  rw [parentOf, hlisting, parentOf]

namespace Client

variable (language : Language) (names : NameTable)

/-! ## Names -/

theorem NameTable.build_known (declaration : Declaration) :
    build language declaration.known = build language declaration := by
  simp only [build, Declaration.known, Written.keys_mapValues, mk.injEq, true_and]
  refine Written.map_mapValues (fun name model => ?_) declaration.models
  simp only [Model.known, Written.keys_mapValues]

/-! ## Models -/

theorem map_itemType_known (items : Option Items) :
    (items.map Items.known).map Items.itemType = items.map Items.itemType := by
  rw [Option.map_map]
  rfl

theorem propertyDescriptor_known (modelName : String) (model : Model) (jsonName : String)
    (property : Property) :
    propertyDescriptor language names modelName model.known jsonName property.known =
      propertyDescriptor language names modelName model jsonName property := by
  have hkind : propertyKind property.known = propertyKind property := by
    simp only [propertyKind, Property.known, map_itemType_known]
  simp only [propertyDescriptor, hkind]
  rfl

theorem modelDescriptor_known (declaration : Declaration) (name : String) (model : Model) :
    modelDescriptor language names declaration.known name model.known =
      modelDescriptor language names declaration name model := by
  have hproperties :
      (modelDescriptor language names declaration.known name model.known).properties =
        (modelDescriptor language names declaration name model).properties :=
    Written.map_mapValues (propertyDescriptor_known language names name model) model.properties
  unfold modelDescriptor at hproperties ⊢
  dsimp only at hproperties ⊢
  rw [hproperties, parentOf_known]
  rfl

theorem models_known (declaration : Declaration) :
    models language names declaration.known = models language names declaration := by
  exact Written.map_mapValues (modelDescriptor_known language names declaration) declaration.models

/-! ## Operations -/

theorem parameterDescriptors_known (scope : Naming.Scope) (parameters : List Parameter) :
    parameterDescriptors language names scope (parameters.map Parameter.known) =
      parameterDescriptors language names scope parameters := by
  induction parameters generalizing scope with
  | nil => rfl
  | cons parameter parameters ih =>
    have hkind : parameterKind parameter.known = parameterKind parameter := by
      simp only [parameterKind, Parameter.known, map_itemType_known]
    simp only [List.map_cons, parameterDescriptors, hkind, ih]
    rfl

theorem operationDescriptors_known (path : String) (scope : Naming.Scope)
    (operations : List Operation) :
    operationDescriptors language names path scope (operations.map Operation.known) =
      operationDescriptors language names path scope operations := by
  -- The scope is generalized, as the names of the later operations depend on those before.
  induction operations generalizing scope with
  | nil => rfl
  | cons operation operations ih =>
    have hkind : returnKind operation.known = returnKind operation := by
      simp only [returnKind, Operation.known, map_itemType_known]
    have hparameters := parameterDescriptors_known language names ⟨false, []⟩ operation.parameters
    have hwords : nameWords path operation.known = nameWords path operation := rfl
    simp only [List.map_cons, operationDescriptors, hkind, hwords, ih]
    simp only [Operation.known, hparameters]

theorem apiDescriptors_known (scope : Naming.Scope) (groups : List Api) :
    apiDescriptors language names scope (groups.map Api.known) =
      apiDescriptors language names scope groups := by
  induction groups generalizing scope with
  | nil => rfl
  | cons api groups ih =>
    simp only [List.map_cons, apiDescriptors, ih]
    simp only [Api.known, operationDescriptors_known]

theorem apis_known (declaration : Declaration) :
    apis language names declaration.known = apis language names declaration := by
  rw [apis, declaration.getD_apis_known, apiDescriptors_known, apis]

end Client

/-! ## Converters -/

namespace Converter

theorem apis_register (c : Converter) : c.register.apis = c.apis := by
  unfold register
  cases hregistered : c.registered with
  | none => simp only [apis, names, hregistered, Option.getD_some, Option.getD_none]
  | some names => rfl

theorem apis_iterate_register (calls : Nat) (c : Converter) :
    (register^[calls] c).apis = c.apis := by
  induction calls generalizing c with
  | zero => rfl
  | succ calls ih => rw [Function.iterate_succ_apply, ih, apis_register]

variable (language : Language) (calls : Nat)

theorem models_known (declaration : Declaration) :
    (register^[calls] { language, declaration := declaration.known }).models =
      (register^[calls] { language, declaration }).models := by
  rw [models_iterate_register, models_iterate_register]
  simp only [models, names, Option.getD_none, Client.NameTable.build_known, Client.models_known]

theorem apis_known (declaration : Declaration) :
    (register^[calls] { language, declaration := declaration.known }).apis =
      (register^[calls] { language, declaration }).apis := by
  rw [apis_iterate_register, apis_iterate_register]
  simp only [apis, names, Option.getD_none, Client.NameTable.build_known, Client.apis_known]

variable {declaration other : Declaration} (h : declaration.known = other.known)
include h

/-- **The descriptors of models** are made of known members. -/
theorem models_eq_of_known_eq : (register^[calls] { language, declaration }).models =
    (register^[calls] { language, declaration := other }).models := by
  rw [← models_known, h, models_known]

/-- **The descriptors of operations** are made of known members. -/
theorem apis_eq_of_known_eq : (register^[calls] { language, declaration }).apis =
    (register^[calls] { language, declaration := other }).apis := by
  rw [← apis_known, h, apis_known]

end Converter

end Stencil
