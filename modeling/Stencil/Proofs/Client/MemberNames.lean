import Stencil.Proofs.Client.References

/-!
# Names of properties, operations and parameters

Members of generated code get their names from three kinds of scope: one for the properties of
each model, one for the operations of all groups together, and one for the parameters of each
operation. The scope of the operations goes from group to group, so that its names are those of
one list of claims.

## Main results

* `map_name_properties`, `map_name_apiDescriptors`, `map_name_parameterDescriptors`: the names
  of members are those that their scope hands out
* `Converter.map_name_properties_of_mem`, `Converter.map_name_parameters_of_mem`: the descriptors
  show the identifiers that are claimed and the names that are granted side by side
* `Converter.memberNames_distinct`: the names in a scope differ, and the descriptors keep the
  order of the declaration with the declared names and paths
-/

namespace Stencil

open Naming

namespace Client

/-! ## Properties -/

/-- Distinct keys find the values they are paired with. -/
theorem map_lookup_zip {α : Type} {keys : List String} (hkeys : keys.Nodup) (values : List α)
    (hlength : keys.length = values.length) (default : String → α) :
    keys.map (fun key => ((keys.zip values).lookup key).getD (default key)) = values := by
  have hfst : (keys.zip values).map (·.1) = keys := List.map_fst_zip (Nat.le_of_eq hlength)
  have hsnd : (keys.zip values).map (·.2) = values := List.map_snd_zip (Nat.le_of_eq hlength.symm)
  have hnodup : ((keys.zip values).map (·.1)).Nodup := by rwa [hfst]
  have hpairs : ((keys.zip values).map (·.1)).map
      (fun key => ((keys.zip values).lookup key).getD (default key)) =
        (keys.zip values).map (·.2) := by
    rw [List.map_map]
    refine List.map_congr_left fun pair hpair => ?_
    rw [Function.comp_apply, lookup_eq_some_of_mem hnodup hpair, Option.getD_some]
  rwa [hfst, hsnd] at hpairs

namespace NameTable

variable (language : Language) (declaration : Declaration)

/-- The table keeps the property names of each declared model. -/
theorem propertyName?_build {entry : String × Declaration.Model}
    (hentry : entry ∈ declaration.models.entries) (jsonName : String) :
    (build language declaration).propertyName? entry.1 jsonName =
      (propertyNames language ((build language declaration).className language entry.1)
        entry.2.properties.keys).lookup jsonName := by
  have hkeys : ((build language declaration).properties.map (·.1)).Nodup := by
    have hnodup := declaration.models.nodup_keys
    rwa [build, Written.map, List.map_map]
  have hmem : (entry.1, propertyNames language
      ((build language declaration).className language entry.1) entry.2.properties.keys) ∈
        (build language declaration).properties := List.mem_map.mpr ⟨entry, hentry, rfl⟩
  rw [propertyName?, lookup_eq_some_of_mem hkeys hmem]
  rfl

end NameTable

/-- **The names of properties** are those that a scope of their own hands out. -/
theorem map_name_properties (language : Language) (declaration : Declaration)
    {entry : String × Declaration.Model} (hentry : entry ∈ declaration.models.entries) :
    (modelDescriptor language (NameTable.build language declaration) declaration entry.1
        entry.2).properties.map (·.name) =
      Scope.claimAll ⟨false, []⟩ (entry.2.properties.keys.map fun jsonName =>
        language.propertyIdentifier jsonName
          ((NameTable.build language declaration).className language entry.1)) := by
  let owner := (NameTable.build language declaration).className language entry.1
  let granted := Scope.claimAll ⟨false, []⟩
    (entry.2.properties.keys.map fun jsonName => language.propertyIdentifier jsonName owner)
  have hlength : entry.2.properties.keys.length = granted.length := by
    rw [Scope.length_claimAll, List.length_map]
  calc (modelDescriptor language (NameTable.build language declaration) declaration entry.1
        entry.2).properties.map (·.name)
      = entry.2.properties.keys.map fun jsonName =>
          ((entry.2.properties.keys.zip granted).lookup jsonName).getD
            (language.propertyIdentifier jsonName owner) := by
        rw [modelDescriptor, Written.map, List.map_map, Written.keys, List.map_map]
        refine List.map_congr_left fun property _ => ?_
        change ((NameTable.build language declaration).propertyName? entry.1 property.1).getD _ = _
        rw [NameTable.propertyName?_build language declaration hentry]
        rfl
    _ = granted := map_lookup_zip entry.2.properties.nodup_keys granted hlength _

/-! ## Operations and parameters -/

variable (language : Language) (names : NameTable)

/-- The identifiers that the operations on a path claim. -/
def operationIdentifiers (path : String) (operations : List Declaration.Operation) :
    List String :=
  operations.map fun o => language.methodIdentifier (nameWords path o)

/-- The names of parameters are those that a scope of their own hands out. -/
theorem map_name_parameterDescriptors (scope : Scope)
    (parameters : List Declaration.Parameter) :
    (parameterDescriptors language names scope parameters).map (·.name) =
      scope.claimAll (parameters.map fun p => language.parameterIdentifier (p.name.getD "")) := by
  induction parameters generalizing scope with
  | nil => rfl
  | cons p rest ih =>
    rw [parameterDescriptors, List.map_cons, ih, List.map_cons, Scope.claimAll_cons]

theorem operationDescriptors_cons (path : String) (scope : Scope) (o : Declaration.Operation)
    (rest : List Declaration.Operation) :
    operationDescriptors language names path scope (o :: rest) =
      let claim := scope.claim (language.methodIdentifier (nameWords path o))
      (operationNamed language names path o claim.1 ::
          (operationDescriptors language names path claim.2 rest).1,
        (operationDescriptors language names path claim.2 rest).2) := rfl

/-- The operations on a path claim their names one after the other. -/
theorem map_name_operationDescriptors (path : String) (scope : Scope)
    (operations : List Declaration.Operation) :
    (operationDescriptors language names path scope operations).1.map (·.name) =
        scope.claimAll (operationIdentifiers language path operations) ∧
      (operationDescriptors language names path scope operations).2 =
        scope.afterAll (operationIdentifiers language path operations) := by
  -- Names and scope go together, as the rest claims in the scope that the first one leaves.
  induction operations generalizing scope with
  | nil => exact ⟨rfl, rfl⟩
  | cons o rest ih =>
    obtain ⟨hnames, hscope⟩ := ih (scope.claim (language.methodIdentifier (nameWords path o))).2
    exact ⟨congrArg (List.cons _) hnames, hscope⟩

theorem apiDescriptors_cons (scope : Scope) (api : Declaration.Api)
    (rest : List Declaration.Api) :
    apiDescriptors language names scope (api :: rest) =
      let path := api.path.getD ""
      let operations := operationDescriptors language names path scope api.operations
      { path, description := api.description, operations := operations.1 } ::
        apiDescriptors language names operations.2 rest := rfl

/-- **The names of operations** in all groups are those that one scope hands out. -/
theorem map_name_apiDescriptors (scope : Scope) (apis : List Declaration.Api) :
    (apiDescriptors language names scope apis).flatMap (fun a => a.operations.map (·.name)) =
      scope.claimAll (apis.flatMap fun api =>
        operationIdentifiers language (api.path.getD "") api.operations) := by
  induction apis generalizing scope with
  | nil => rfl
  | cons api rest ih =>
    -- The next group claims its names in the scope that this one leaves.
    obtain ⟨hnames, hscope⟩ :=
      map_name_operationDescriptors language names (api.path.getD "") scope api.operations
    rw [apiDescriptors_cons, List.flatMap_cons, List.flatMap_cons, Scope.claimAll_append, ← hnames,
      ← hscope, ← ih]

/-! ## Declared names and paths -/

theorem map_jsonName_parameterDescriptors (scope : Scope)
    (parameters : List Declaration.Parameter) :
    (parameterDescriptors language names scope parameters).map (·.jsonName) =
      parameters.map fun p => p.name.getD "" := by
  induction parameters generalizing scope with
  | nil => rfl
  | cons p rest ih => rw [parameterDescriptors, List.map_cons, ih, List.map_cons]

/-- Operations show the path of their group and the declared names of their parameters. -/
theorem map_path_operationDescriptors (path : String) (scope : Scope)
    (operations : List Declaration.Operation) :
    (operationDescriptors language names path scope operations).1.map
        (fun o => (o.path, o.parameters.map (·.jsonName))) =
      operations.map fun o => (path, o.parameters.map fun p => p.name.getD "") := by
  induction operations generalizing scope with
  | nil => rfl
  | cons o rest ih =>
    rw [operationDescriptors_cons, List.map_cons, List.map_cons, ih]
    simp only [operationNamed, map_jsonName_parameterDescriptors]

/-- Groups show their paths and those of their operations. -/
theorem map_path_apiDescriptors (scope : Scope) (apis : List Declaration.Api) :
    (apiDescriptors language names scope apis).map
        (fun a => (a.path, a.operations.map fun o => (o.path, o.parameters.map (·.jsonName)))) =
      apis.map fun api => (api.path.getD "", api.operations.map fun o =>
        (api.path.getD "", o.parameters.map fun p => p.name.getD "")) := by
  induction apis generalizing scope with
  | nil => rfl
  | cons api rest ih =>
    rw [apiDescriptors_cons, List.map_cons, List.map_cons, ih]
    simp only [map_path_operationDescriptors]

/-! ## Operations of a group -/

/-- A group describes its operations in the scope that the groups before it leave. -/
theorem exists_scope_of_mem {scope : Scope} {apis : List Declaration.Api} {a : ApiDescriptor}
    (ha : a ∈ apiDescriptors language names scope apis) : ∃ api ∈ apis, ∃ scope,
      a.operations =
        (operationDescriptors language names (api.path.getD "") scope api.operations).1 := by
  induction apis generalizing scope with
  | nil => exact absurd ha List.not_mem_nil
  | cons api rest ih =>
    rw [apiDescriptors_cons] at ha
    rcases List.mem_cons.mp ha with rfl | ha
    · exact ⟨api, List.mem_cons_self, scope, rfl⟩
    · obtain ⟨other, hother, hscope⟩ := ih ha
      exact ⟨other, List.mem_cons_of_mem _ hother, hscope⟩

theorem exists_eq_operationNamed_of_mem {path : String} {scope : Scope}
    {operations : List Declaration.Operation} {o : OperationDescriptor}
    (ho : o ∈ (operationDescriptors language names path scope operations).1) :
    ∃ operation ∈ operations, o = operationNamed language names path operation o.name := by
  induction operations generalizing scope with
  | nil => exact absurd ho List.not_mem_nil
  | cons operation rest ih =>
    rw [operationDescriptors_cons] at ho
    rcases List.mem_cons.mp ho with rfl | ho
    · exact ⟨operation, List.mem_cons_self, rfl⟩
    · obtain ⟨other, hother, heq⟩ := ih ho
      exact ⟨other, List.mem_cons_of_mem _ hother, heq⟩

/-- The parameters of an operation are described in a scope of their own. -/
theorem exists_parameters_eq {scope : Scope} {apis : List Declaration.Api} {a : ApiDescriptor}
    (ha : a ∈ apiDescriptors language names scope apis) {o : OperationDescriptor}
    (ho : o ∈ a.operations) : ∃ parameters : List Declaration.Parameter,
      o.parameters = parameterDescriptors language names ⟨false, []⟩ parameters := by
  obtain ⟨api, -, inner, hoperations⟩ := exists_scope_of_mem language names ha
  rw [hoperations] at ho
  obtain ⟨operation, -, heq⟩ := exists_eq_operationNamed_of_mem language names ho
  exact ⟨operation.parameters, by rw [heq]; rfl⟩

end Client

/-! ## The names in a scope -/

namespace Converter

variable {language : Language} {declaration : Declaration}

/-- The properties of a class claim the identifiers of their names on the wire. -/
theorem map_name_properties_of_mem {m : Client.ModelDescriptor}
    (hm : m ∈ (ready language declaration).models) :
    m.properties.map (·.name) = Scope.claimAll ⟨false, []⟩
      (m.properties.map fun p => language.propertyIdentifier p.jsonName m.name) := by
  obtain ⟨entry, hentry, rfl⟩ := List.mem_map.mp hm
  refine (Client.map_name_properties language declaration hentry).trans ?_
  change _ = Scope.claimAll _ ((entry.2.properties.map _).map _)
  rw [Written.map, Written.keys, List.map_map, List.map_map]
  rfl

/-- The parameters of an operation claim the identifiers of their declared names. -/
theorem map_name_parameters_of_mem {a : Client.ApiDescriptor}
    (ha : a ∈ (ready language declaration).apis) {o : Client.OperationDescriptor}
    (ho : o ∈ a.operations) :
    o.parameters.map (·.name) = Scope.claimAll ⟨false, []⟩
      (o.parameters.map fun p => language.parameterIdentifier p.jsonName) := by
  obtain ⟨parameters, hparameters⟩ := Client.exists_parameters_eq language _ ha ho
  have hjson := Client.map_jsonName_parameterDescriptors language
    (ready language declaration).names ⟨false, []⟩ parameters
  rw [← hparameters] at hjson
  have hidentifiers := congrArg (List.map language.parameterIdentifier) hjson
  rw [List.map_map, List.map_map] at hidentifiers
  rw [hparameters, Client.map_name_parameterDescriptors, ← hparameters]
  exact congrArg _ hidentifiers.symm

/-- **Names of members** differ in their scope: those of the properties of a model, those of all
operations, and those of the parameters of an operation. The descriptors keep the order of the
declaration, one for each model, property, group, operation and parameter, and show the declared
names and paths, an absent one as the empty text. -/
theorem memberNames_distinct (language : Language) (declaration : Declaration) :
    (ready language declaration).models.map
          (fun m => (m.declaredName, m.properties.map (·.jsonName))) =
        declaration.models.map (fun (name, model) => (name, model.properties.keys)) ∧
      (ready language declaration).apis.map
          (fun a => (a.path, a.operations.map fun o => (o.path, o.parameters.map (·.jsonName)))) =
        (declaration.apis.getD []).map (fun api => (api.path.getD "", api.operations.map fun o =>
          (api.path.getD "", o.parameters.map fun p => p.name.getD ""))) ∧
      (∀ m ∈ (ready language declaration).models, (m.properties.map (·.name)).Nodup) ∧
      ((ready language declaration).apis.flatMap fun a => a.operations.map (·.name)).Nodup ∧
      ∀ a ∈ (ready language declaration).apis, ∀ o ∈ a.operations,
        (o.parameters.map (·.name)).Nodup := by
  refine ⟨?_, Client.map_path_apiDescriptors language _ _ _, ?_, ?_, ?_⟩
  · rw [models_ready, Written.map, List.map_map]
    refine List.map_congr_left fun entry _ => Prod.ext rfl ?_
    change (entry.2.properties.map _).map _ = _
    rw [Written.map, List.map_map]
    rfl
  · intro m hm
    obtain ⟨entry, hentry, rfl⟩ := List.mem_map.mp hm
    have hnames := Client.map_name_properties language declaration hentry
    exact hnames ▸ Scope.nodup_claimAll _ _
  · rw [apis, Client.apis, Client.map_name_apiDescriptors]
    exact Scope.nodup_claimAll _ _
  · intro a ha o ho
    obtain ⟨parameters, hparameters⟩ := Client.exists_parameters_eq language _ ha ho
    rw [hparameters, Client.map_name_parameterDescriptors]
    exact Scope.nodup_claimAll _ _

/-- A property with the name of its model, one with the name that this leads to, and properties
whose numbers meet names that are written with a number. -/
def collidingNames : Declaration where
  apis := some [
    { path := "/pets", operations := [
      { nickname := "find", parameters := [{ name := "a-b" }, { name := "a_b" }] }] },
    { operations := [{ nickname := "find" }] }]
  models := ⟨[("Pet", { properties :=
    ⟨[("Pet", {}), ("PetValue", {}), ("a-b1", {}), ("a-b", {}), ("a_b", {})], by decide⟩ })],
    by decide⟩

example : ((ready CSharp.language collidingNames).models.map fun m =>
      m.properties.map (·.name)) = [["PetValue", "PetValue1", "AB1", "AB", "AB2"]] ∧
    ((ready CSharp.language collidingNames).apis.map fun a =>
      a.operations.map fun o => (o.path, o.name, o.parameters.map (·.name))) =
        [[("/pets", "Find", ["aB", "aB1"])], [("", "Find1", [])]] := by decide +kernel

end Converter

end Stencil
