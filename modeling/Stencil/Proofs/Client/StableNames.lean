import Stencil.Proofs.Client.KnownMembers
import Stencil.Proofs.Client.MemberNames

/-!
# Names in a declaration that grows

Names are claimed in the order of the declaration, so that models and groups which come later
claim theirs in what the earlier ones leave. They change none of the names that are given before
them, whether or not they would get these names themselves. What a descriptor says about other
models (types, the parent, sub types) may change, as later models are declared then.

## Main definitions

* `Declaration.Extends declaration other`: `other` has further models and groups behind those of
  `declaration`

## Main results

* `Client.NameTable.className_build_of_extends`: declared models keep their classes
* `Converter.names_prefix_of_extends`: names of models, properties, operations and parameters stay
-/

namespace Stencil

open Naming

/-- Further models and further groups of operations stand behind those of a declaration. The other
members of the two declarations have nothing to do with each other. -/
structure Declaration.Extends (declaration other : Declaration) : Prop where
  models : declaration.models.entries <+: other.models.entries
  apis : declaration.apis.getD [] <+: other.apis.getD []

namespace Client

variable (language : Language)

/-! ## Classes -/

namespace NameTable

/-- Later models are named in the scope that the earlier ones leave. -/
theorem classNames_append (stems : Scope) (models others : List String) :
    classNames language stems (models ++ others) =
      classNames language stems models ++
        classNames language (stems.afterAll (models.map fun model =>
          language.fileStem (language.typeIdentifier model))) others := by
  induction models generalizing stems with
  | nil => rfl
  | cons model models ih =>
    rw [List.cons_append, classNames_cons, ih, classNames_cons]
    rfl

variable {declaration other : Declaration}

/-- **Declared models** keep their classes when further models are declared behind them. -/
theorem className_build_of_extends (h : declaration.Extends other) {model : String}
    (hmodel : model ∈ declaration.models.keys) :
    (build language other).className language model =
      (build language declaration).className language model := by
  obtain ⟨later, hlater⟩ := h.models
  have hkeys : other.models.keys = declaration.models.keys ++ later.map (·.1) := by
    rw [Written.keys, ← hlater, List.map_append]
    rfl
  -- Both tables begin with what the models of the smaller declaration are given.
  have hall := @map_className_build language other
  rw [hkeys, classNames_append, List.map_append, List.map_append,
    ← map_className_build declaration] at hall
  have hfront := (List.append_inj hall (by rw [List.length_map, List.length_map])).1
  exact List.map_inj_left.mp hfront model hmodel

end NameTable

variable {declaration other : Declaration}

/-- The descriptor of a declared model keeps the names of the class, its file and its
properties. -/
theorem names_modelDescriptor_of_extends (h : declaration.Extends other)
    {entry : String × Declaration.Model} (hentry : entry ∈ declaration.models.entries) :
    let before := modelDescriptor language (NameTable.build language declaration) declaration
      entry.1 entry.2
    let after := modelDescriptor language (NameTable.build language other) other entry.1 entry.2
    after.name = before.name ∧ after.fileName = before.fileName ∧
      after.properties.map (·.name) = before.properties.map (·.name) := by
  have hkey : entry.1 ∈ declaration.models.keys := List.mem_map_of_mem hentry
  have hclass := NameTable.className_build_of_extends language h hkey
  refine ⟨hclass, congrArg language.fileStem hclass, ?_⟩
  -- Properties claim their names among themselves, under the name of the class.
  rw [map_name_properties language other (h.models.subset hentry),
    map_name_properties language declaration hentry, hclass]

/-! ## Operations -/

variable (names others : NameTable)

/-- No name of a parameter is made of a class. -/
theorem map_name_parameterDescriptors_eq (scope : Scope)
    (parameters : List Declaration.Parameter) :
    (parameterDescriptors language names scope parameters).map (·.name) =
      (parameterDescriptors language others scope parameters).map (·.name) := by
  rw [map_name_parameterDescriptors, map_name_parameterDescriptors]

/-- No name in the operations on a path is made of a class. -/
theorem map_names_operationDescriptors (path : String) (scope : Scope)
    (operations : List Declaration.Operation) :
    (operationDescriptors language names path scope operations).1.map
        (fun o => (o.name, o.parameters.map (·.name))) =
      (operationDescriptors language others path scope operations).1.map
        (fun o => (o.name, o.parameters.map (·.name))) := by
  induction operations generalizing scope with
  | nil => rfl
  | cons o rest ih =>
    rw [operationDescriptors_cons, operationDescriptors_cons, List.map_cons, List.map_cons, ih]
    refine congrArg (· :: _) (Prod.ext rfl ?_)
    exact map_name_parameterDescriptors_eq language names others _ o.parameters

theorem map_names_apiDescriptors (scope : Scope) (apis : List Declaration.Api) :
    (apiDescriptors language names scope apis).map
        (fun a => (a.path, a.operations.map fun o => (o.name, o.parameters.map (·.name)))) =
      (apiDescriptors language others scope apis).map
        (fun a => (a.path, a.operations.map fun o => (o.name, o.parameters.map (·.name)))) := by
  induction apis generalizing scope with
  | nil => rfl
  | cons api rest ih =>
    -- The scope behind the first group is that of the names its operations claim.
    have hscope := (map_name_operationDescriptors language names (api.path.getD "") scope
      api.operations).2.trans (map_name_operationDescriptors language others (api.path.getD "")
        scope api.operations).2.symm
    rw [apiDescriptors_cons, apiDescriptors_cons, List.map_cons, List.map_cons, hscope, ih]
    refine congrArg (· :: _) (Prod.ext rfl ?_)
    exact map_names_operationDescriptors language names others _ scope api.operations

/-- Later groups are described in the scope that the earlier ones leave. -/
theorem apiDescriptors_append (scope : Scope) (groups later : List Declaration.Api) :
    apiDescriptors language names scope groups <+:
      apiDescriptors language names scope (groups ++ later) := by
  induction groups generalizing scope with
  | nil => exact List.nil_prefix
  | cons api groups ih =>
    rw [List.cons_append, apiDescriptors_cons, apiDescriptors_cons]
    exact List.cons_prefix_cons.mpr ⟨rfl, ih _⟩

end Client

/-! ## Converters -/

namespace Converter

variable {declaration other : Declaration} (calls : Nat)

/-- **Names stay when a declaration grows**: in the descriptors of the larger declaration, those of
the models and groups of the smaller one come first, and they show the same names of classes,
files, properties, operations and parameters, before the names are registered and after that. -/
theorem names_prefix_of_extends (language : Language) (h : declaration.Extends other) :
    (register^[calls] { language, declaration }).models.map
          (fun m => (m.declaredName, m.name, m.fileName, m.properties.map (·.name))) <+:
        (register^[calls] { language, declaration := other }).models.map
          (fun m => (m.declaredName, m.name, m.fileName, m.properties.map (·.name))) ∧
      (register^[calls] { language, declaration }).apis.map
          (fun a => (a.path, a.operations.map fun o => (o.name, o.parameters.map (·.name)))) <+:
        (register^[calls] { language, declaration := other }).apis.map
          (fun a => (a.path, a.operations.map fun o => (o.name, o.parameters.map (·.name)))) := by
  constructor
  · obtain ⟨later, hlater⟩ := h.models
    rw [models_iterate_register, models_iterate_register, models, models, Client.models,
      Client.models, Written.map, Written.map, ← hlater, List.map_append, List.map_append]
    -- The models of the smaller declaration are described by both converters.
    refine ⟨_, congrArg (· ++ _) ?_⟩
    rw [List.map_map, List.map_map]
    refine List.map_congr_left fun entry hentry => ?_
    obtain ⟨hname, hfile, hproperties⟩ :=
      Client.names_modelDescriptor_of_extends language h hentry
    exact Prod.ext rfl (Prod.ext hname.symm (Prod.ext hfile.symm hproperties.symm))
  · obtain ⟨later, hlater⟩ := h.apis
    rw [apis_iterate_register, apis_iterate_register, apis, apis, Client.apis, Client.apis,
      ← hlater, Client.map_names_apiDescriptors language (names { language, declaration })
        (names { language, declaration := other })]
    exact (Client.apiDescriptors_append language _ _ _ later).map _

/-- Models whose files differ by case only, and operations of one name. -/
def namedTwice : Declaration where
  apis := some [{ operations := [{ nickname := "find" }, { nickname := "find" }] }]
  models := ⟨[("Pet", { properties := ⟨[("a-b", {}), ("a_b", {})], by decide⟩ }), ("pet", {})],
    by decide⟩

/-- Further models and a further operation, which are declared with the numbered names. -/
def namedTwiceAndLater : Declaration where
  apis := some [{ operations := [{ nickname := "find" }, { nickname := "find" }] },
    { operations := [{ nickname := "find1" }] }]
  models := ⟨[("Pet", { properties := ⟨[("a-b", {}), ("a_b", {})], by decide⟩ }), ("pet", {}),
    ("pet1", {}), ("Pet1", { subTypes := some ["Pet"] })], by decide⟩

theorem names_prefix_of_extends_namedTwice :
    namedTwice.Extends namedTwiceAndLater ∧
      (ready CSharp.language namedTwice).models.map
          (fun m => (m.declaredName, m.name, m.fileName, m.properties.map (·.name))) <+:
        [("Pet", "Pet", "Pet", ["AB", "AB1"]), ("pet", "pet1", "pet1", []),
          ("pet1", "pet11", "pet11", []), ("Pet1", "Pet12", "Pet12", [])] ∧
      (ready CSharp.language namedTwice).apis.map
          (fun a => (a.path, a.operations.map fun o => (o.name, o.parameters.map (·.name)))) <+:
        [("", [("Find", []), ("Find1", [])]), ("", [("Find11", [])])] := by
  have h : namedTwice.Extends namedTwiceAndLater :=
    { models := ⟨namedTwiceAndLater.models.entries.drop 2, rfl⟩
      apis := ⟨(namedTwiceAndLater.apis.getD []).drop 1, rfl⟩ }
  obtain ⟨hmodels, hapis⟩ := names_prefix_of_extends 1 CSharp.language h
  refine ⟨h, hmodels.trans ?_, hapis.trans ?_⟩
  · exact ⟨[], by decide +kernel⟩
  · exact ⟨[], by decide +kernel⟩

end Converter

end Stencil
