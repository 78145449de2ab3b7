import Stencil.Proofs.Client.MemberNames
import Stencil.Proofs.Language.Legal

/-!
# Names that are legal in the target language

Every name of a class, a property, an operation or a parameter is an identifier of the language
with a number behind it. A property of names that the identifiers have and that numbers keep is
therefore one of all names, also of classes that are mentioned without being declared.

## Main definitions

* `Client.HandsOut P language declaration`: all names of classes, operations and parameters have
  the property `P`

## Main results

* `Client.handsOut_of_numbered`: names have the properties of identifiers that numbers keep
* `Client.handsOut_isLegal`: the names in TypeScript are legal identifiers
* `Client.allNames_isLegal`: so are the names in C#, those of properties included
-/

namespace Stencil

open Naming

namespace Client

/-- All names of classes, operations and parameters have a property, those of undeclared
classes included. -/
structure HandsOut (P : String → Prop) (language : Language) (declaration : Declaration) :
    Prop where
  className : ∀ model, P ((NameTable.build language declaration).className language model)
  models : ∀ m ∈ (Converter.ready language declaration).models, P m.name
  parents : ∀ m ∈ (Converter.ready language declaration).models, ∀ parent ∈ m.parent, P parent
  subTypes : ∀ m ∈ (Converter.ready language declaration).models, ∀ sub ∈ m.subTypes, P sub
  operations : ∀ a ∈ (Converter.ready language declaration).apis, ∀ o ∈ a.operations, P o.name
  parameters : ∀ a ∈ (Converter.ready language declaration).apis, ∀ o ∈ a.operations,
    ∀ p ∈ o.parameters, P p.name

variable {P : String → Prop} {language : Language}

/-- What a scope hands out has the properties of the claimed names that numbers keep. -/
theorem forall_claimAll (hnumbered : ∀ name n, P name → P (Scope.numbered name n))
    {scope : Scope} {names : List String} (hnames : ∀ name ∈ names, P name) :
    ∀ granted ∈ scope.claimAll names, P granted := by
  intro granted hgranted
  obtain ⟨name, hname, n, rfl⟩ := Scope.exists_numbered_of_mem_claimAll hgranted
  exact hnumbered name n (hnames name hname)

/-- **Names** have each property that the identifiers of the language have and that numbers
behind a name keep. -/
theorem handsOut_of_numbered (hnumbered : ∀ name n, P name → P (Scope.numbered name n))
    (htype : ∀ model, P (language.typeIdentifier model))
    (hmethod : ∀ words, P (language.methodIdentifier words))
    (hparameter : ∀ name, P (language.parameterIdentifier name)) (declaration : Declaration) :
    HandsOut P language declaration := by
  have hclass : ∀ model,
      P ((NameTable.build language declaration).className language model) := by
    intro model
    obtain ⟨n, hn⟩ := @NameTable.exists_numbered_className language declaration model
    rw [hn]
    exact hnumbered _ n (htype model)
  refine ⟨hclass, ?_, ?_, ?_, ?_, ?_⟩
  · intro m hm
    obtain ⟨entry, -, rfl⟩ := List.mem_map.mp hm
    exact hclass entry.1
  · intro m hm parent hparent
    obtain ⟨entry, -, rfl⟩ := List.mem_map.mp hm
    obtain ⟨model, -, rfl⟩ := Option.map_eq_some_iff.mp hparent
    exact hclass model
  · intro m hm sub hsub
    obtain ⟨entry, -, rfl⟩ := List.mem_map.mp hm
    obtain ⟨model, -, rfl⟩ := List.mem_map.mp hsub
    exact hclass model
  · -- One scope hands out the names of the operations in all groups.
    intro a ha o ho
    have hgranted : o.name ∈ (Converter.ready language declaration).apis.flatMap
        (fun a => a.operations.map (·.name)) :=
      List.mem_flatMap.mpr ⟨a, ha, List.mem_map_of_mem ho⟩
    rw [Converter.apis, apis, map_name_apiDescriptors] at hgranted
    refine forall_claimAll hnumbered ?_ _ hgranted
    intro name hname
    obtain ⟨api, -, hname⟩ := List.mem_flatMap.mp hname
    obtain ⟨operation, -, rfl⟩ := List.mem_map.mp hname
    exact hmethod _
  · -- The parameters of each operation have a scope of their own.
    intro a ha o ho p hp
    obtain ⟨parameters, hparameters⟩ := exists_parameters_eq language _ ha ho
    have hgranted : p.name ∈ o.parameters.map (·.name) := List.mem_map_of_mem hp
    rw [hparameters, map_name_parameterDescriptors] at hgranted
    refine forall_claimAll hnumbered ?_ _ hgranted
    intro name hname
    obtain ⟨parameter, -, rfl⟩ := List.mem_map.mp hname
    exact hparameter _

/-- The names of properties have them too, whatever class they are named in. -/
theorem properties_of_numbered (hnumbered : ∀ name n, P name → P (Scope.numbered name n))
    (hproperty : ∀ jsonName owner, P (language.propertyIdentifier jsonName owner))
    (declaration : Declaration) :
    ∀ m ∈ (Converter.ready language declaration).models, ∀ p ∈ m.properties, P p.name := by
  intro m hm p hp
  have hgranted : p.name ∈ m.properties.map (·.name) := List.mem_map_of_mem hp
  rw [Converter.map_name_properties_of_mem hm] at hgranted
  refine forall_claimAll hnumbered ?_ _ hgranted
  intro name hname
  obtain ⟨property, -, rfl⟩ := List.mem_map.mp hname
  exact hproperty property.jsonName m.name

/-- **Legal names**: every name of a class, an operation or a parameter in TypeScript is a legal
identifier, also that of a class that is only mentioned and one with a number behind it. -/
theorem handsOut_isLegal (declaration : Declaration) :
    HandsOut TypeScript.IsLegal TypeScript.language declaration :=
  handsOut_of_numbered (fun _ n h => h.numbered n)
    (fun model => TypeScript.isLegal_sanitize (capitalize model.toList))
    (fun words => TypeScript.isLegal_sanitize
      (uncapitalize (TypeScript.hyphenate (words.map String.toList))))
    (fun name => TypeScript.isLegal_sanitize name.toList) declaration

/-- **Legal names in C#**: every name of a class, a property, an operation or a parameter is a
legal identifier, also one with a number behind it and that of a property whose class would have
the same name. -/
theorem allNames_isLegal (declaration : Declaration) :
    HandsOut CSharp.IsLegal CSharp.language declaration ∧
      ∀ m ∈ (Converter.ready CSharp.language declaration).models, ∀ p ∈ m.properties,
        CSharp.IsLegal p.name := by
  have hnumbered : ∀ name n, CSharp.IsLegal name → CSharp.IsLegal (Scope.numbered name n) :=
    fun _ n h => h.numbered n
  constructor
  · exact handsOut_of_numbered hnumbered
      (fun model => CSharp.isLegal_safeIdentifier model.toList)
      (fun words => CSharp.isLegal_safeIdentifier
        ((words.map String.toList).flatMap fun word => capitalize (pascalCase word)))
      (fun name => CSharp.isLegal_casedIdentifier camelCase name.toList) declaration
  · exact properties_of_numbered hnumbered
      (fun jsonName owner => CSharp.isLegal_propertyIdentifier jsonName.toList owner.toList)
      declaration

/-- Names that are reserved words, that start with digits or that hold no character of an
identifier, and a subtype that is not declared. -/
def awkwardNames : Declaration where
  apis := some [{ operations := [
    { nickname := "delete", parameters := [{ name := "class" }, { name := "1st" }, {}] },
    { nickname := "delete" }] }]
  models := ⟨[("2fa", { subTypes := some ["new-one"] }), ("é", {})], by decide⟩

example : ((Converter.ready TypeScript.language awkwardNames).models.map fun m =>
      (m.name, m.subTypes)) = [("_2fa", ["NewOne"]), ("_empty", [])] ∧
    ((Converter.ready TypeScript.language awkwardNames).apis.flatMap fun a =>
      a.operations.map fun o => (o.name, o.parameters.map (·.name))) =
        [("_delete", ["_class", "_1st", "_empty"]), ("_delete1", [])] := by decide +kernel

example : ((Converter.ready CSharp.language awkwardNames).models.map fun m =>
      (m.name, m.subTypes)) = [("_2fa", ["new_one"]), ("é", [])] ∧
    ((Converter.ready CSharp.language awkwardNames).apis.flatMap fun a =>
      a.operations.map fun o => (o.name, o.parameters.map (·.name))) =
        [("Delete", ["@class", "_1st", "_"]), ("Delete1", [])] := by decide +kernel

end Client

end Stencil
