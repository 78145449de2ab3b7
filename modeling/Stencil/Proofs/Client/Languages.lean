import Stencil.Proofs.Client.KnownMembers
import Stencil.Proofs.Client.MemberNames

/-!
# One declaration in two languages

A language decides how classes, files, members and types are written, and nothing else. The
descriptors of a declaration in two languages are the same without what is written in the language.
What is written there as a reference, the parent of a class or one of its sub types, is so for the
same models, each in the name that the language gives the model.

## Main definitions

* `ModelDescriptor.neutral`, `ApiDescriptor.neutral`: a descriptor without what is written in the
  language
* `SameClass classes shown other`: two names of one class
* `Converter.Agrees`: two converters say the same about a declaration, each in its language

## Main results

* `Converter.agrees_of_namesFiles`: any two languages that name files apart agree
* `Converter.csharp_agrees_typescript`: the two languages that come with the generator agree
-/

namespace Stencil

open Naming

namespace Client

/-! ## What is not written in the language -/

/-- The descriptor of a property without its identifier and its type. -/
def PropertyDescriptor.neutral (p : PropertyDescriptor) : PropertyDescriptor :=
  { p with name := "", type := "" }

/-- The descriptor of a model without names of classes, files and members, and without types. -/
def ModelDescriptor.neutral (m : ModelDescriptor) : ModelDescriptor :=
  { m with
    name := ""
    fileName := ""
    properties := m.properties.map PropertyDescriptor.neutral
    parent := none
    subTypes := [] }

/-- The descriptor of a parameter without its identifier and its type. -/
def ParameterDescriptor.neutral (p : ParameterDescriptor) : ParameterDescriptor :=
  { p with name := "", type := "" }

/-- The descriptor of an operation without identifiers and types. -/
def OperationDescriptor.neutral (o : OperationDescriptor) : OperationDescriptor :=
  { o with
    name := ""
    returnType := ""
    parameters := o.parameters.map ParameterDescriptor.neutral }

/-- The descriptor of a group without identifiers and types. -/
def ApiDescriptor.neutral (a : ApiDescriptor) : ApiDescriptor :=
  { a with operations := a.operations.map OperationDescriptor.neutral }

section Neutral

variable (language other : Language) (names others : NameTable)

theorem neutral_modelDescriptor (declaration : Declaration) (name : String)
    (model : Declaration.Model) :
    (modelDescriptor language names declaration name model).neutral =
      (modelDescriptor other others declaration name model).neutral := by
  simp only [modelDescriptor, ModelDescriptor.neutral, Written.map, List.map_map]
  rfl

theorem map_neutral_models (declaration : Declaration) :
    (models language names declaration).map ModelDescriptor.neutral =
      (models other others declaration).map ModelDescriptor.neutral := by
  rw [models, models, Written.map, Written.map, List.map_map, List.map_map]
  refine List.map_congr_left fun entry _ => ?_
  exact neutral_modelDescriptor language other names others declaration entry.1 entry.2

/-- The scopes of two languages hand out different names, none of which is in what remains. -/
theorem map_neutral_parameterDescriptors (scope scope' : Scope)
    (parameters : List Declaration.Parameter) :
    (parameterDescriptors language names scope parameters).map ParameterDescriptor.neutral =
      (parameterDescriptors other others scope' parameters).map ParameterDescriptor.neutral := by
  induction parameters generalizing scope scope' with
  | nil => rfl
  | cons p rest ih =>
    rw [parameterDescriptors, parameterDescriptors, List.map_cons, List.map_cons]
    exact congrArg (List.cons _) (ih _ _)

theorem map_neutral_operationDescriptors (path : String) (scope scope' : Scope)
    (operations : List Declaration.Operation) :
    (operationDescriptors language names path scope operations).1.map
        OperationDescriptor.neutral =
      (operationDescriptors other others path scope' operations).1.map
        OperationDescriptor.neutral := by
  induction operations generalizing scope scope' with
  | nil => rfl
  | cons o rest ih =>
    have hparameters := map_neutral_parameterDescriptors language other names others ⟨false, []⟩
      ⟨false, []⟩ o.parameters
    have hfirst (name name' : String) :
        (operationNamed language names path o name).neutral =
          (operationNamed other others path o name').neutral := by
      unfold OperationDescriptor.neutral operationNamed
      rw [hparameters]
    rw [operationDescriptors_cons, operationDescriptors_cons, List.map_cons, List.map_cons,
      hfirst, ih]

theorem map_neutral_apiDescriptors (scope scope' : Scope) (apis : List Declaration.Api) :
    (apiDescriptors language names scope apis).map ApiDescriptor.neutral =
      (apiDescriptors other others scope' apis).map ApiDescriptor.neutral := by
  induction apis generalizing scope scope' with
  | nil => rfl
  | cons api rest ih =>
    have hoperations := map_neutral_operationDescriptors language other names others
      (api.path.getD "") scope scope' api.operations
    rw [apiDescriptors_cons, apiDescriptors_cons, List.map_cons, List.map_cons, ih]
    refine congrArg (· :: _) ?_
    unfold ApiDescriptor.neutral
    rw [hoperations]

end Neutral

/-! ## Names of the same class -/

/-- Among pairs of descriptors, each of one model in two languages, two names are those of one
class: some pair has them, and another one has neither of them. -/
structure SameClass (classes : List (ModelDescriptor × ModelDescriptor)) (shown other : String) :
    Prop where
  declared : ∃ p ∈ classes, p.1.name = shown ∧ p.2.name = other
  name_iff : ∀ p ∈ classes, p.1.name = shown ↔ p.2.name = other

/-- Two languages show one model, each in its way: by the class that it has in the language, or by
the identifier of its name if it is not declared. -/
inductive ShowsSame (language other : Language)
    (classes : List (ModelDescriptor × ModelDescriptor)) (name : String) :
    String × String → Prop
  | declared {p : ModelDescriptor × ModelDescriptor} : p ∈ classes →
    p.1.declaredName = name → p.2.declaredName = name →
      ShowsSame language other classes name (p.1.name, p.2.name)
  | undeclared : (∀ p ∈ classes, p.1.declaredName ≠ name) →
      ShowsSame language other classes name
        (language.typeIdentifier name, other.typeIdentifier name)

end Client

namespace Converter

open Client

/-- Two converters say the same about their declaration: all that is not written in the language is
equal, parents are there for the same models and are the same classes, and sub types show one name
after the other of those that the declaration lists. -/
structure Agrees (c d : Converter) : Prop where
  models : c.models.map ModelDescriptor.neutral = d.models.map ModelDescriptor.neutral
  apis : c.apis.map ApiDescriptor.neutral = d.apis.map ApiDescriptor.neutral
  parents : List.Forall₂
    (fun m n => Option.Rel (SameClass (c.models.zip d.models)) m.parent n.parent) c.models d.models
  subTypes : List.Forall₂ (fun (entry : String × Declaration.Model) p =>
      p.1.subTypes.length = p.2.subTypes.length ∧
        List.Forall₂ (ShowsSame c.language d.language (c.models.zip d.models))
          (entry.2.subTypes.getD []) (p.1.subTypes.zip p.2.subTypes))
    c.declaration.models.entries (c.models.zip d.models)

/-! ## Descriptors side by side -/

variable {language other : Language} {declaration : Declaration}

/-- The descriptors of the models of a declaration in two languages, side by side. -/
def sideBySide (language other : Language) (declaration : Declaration) :
    List (ModelDescriptor × ModelDescriptor) :=
  (ready language declaration).models.zip (ready other declaration).models

theorem sideBySide_eq (language other : Language) (declaration : Declaration) :
    sideBySide language other declaration = declaration.models.entries.map fun entry =>
      (modelDescriptor language (NameTable.build language declaration) declaration entry.1 entry.2,
        modelDescriptor other (NameTable.build other declaration) declaration entry.1 entry.2) := by
  rw [sideBySide, models_ready, models_ready, Written.map, Written.map, List.zip_map']

/-- Declared models have different classes. -/
theorem className_eq_iff (hnames : language.NamesFiles) {name name' : String}
    (hname : name ∈ declaration.models.keys) (hname' : name' ∈ declaration.models.keys) :
    (NameTable.build language declaration).className language name =
        (NameTable.build language declaration).className language name' ↔ name = name' := by
  have hnodup := nodup_names hnames declaration
  rw [map_name_models, ← NameTable.map_className_build] at hnodup
  constructor
  · intro h
    exact List.inj_on_of_nodup_map hnodup hname hname' h
  · rintro rfl
    rfl

/-- The classes of a declared model in two languages are the same class. -/
theorem sameClass_className (hnames : language.NamesFiles) (hothers : other.NamesFiles)
    {name : String} (hname : name ∈ declaration.models.keys) :
    SameClass (sideBySide language other declaration)
      ((NameTable.build language declaration).className language name)
      ((NameTable.build other declaration).className other name) := by
  rw [sideBySide_eq]
  constructor
  · obtain ⟨entry, hentry, rfl⟩ := List.mem_map.mp hname
    exact ⟨_, List.mem_map_of_mem hentry, rfl, rfl⟩
  · intro p hp
    obtain ⟨entry, hentry, rfl⟩ := List.mem_map.mp hp
    have hkey : entry.1 ∈ declaration.models.keys := List.mem_map_of_mem hentry
    -- Both names are those of one model only, the one that is declared as `name`.
    exact (className_eq_iff hnames hkey hname).trans (className_eq_iff hothers hkey hname).symm

/-- A parent is declared. -/
theorem mem_keys_of_parentOf {name parent : String}
    (h : declaration.parentOf name = .found parent) : parent ∈ declaration.models.keys := by
  obtain ⟨model, hentry, -⟩ := (Declaration.parentOf_eq_found_iff.mp h parent).mpr rfl
  exact List.mem_map_of_mem hentry

theorem rel_parents (hnames : language.NamesFiles) (hothers : other.NamesFiles) (name : String) :
    Option.Rel (SameClass (sideBySide language other declaration))
      ((declaration.parentOf name).parent?.map
        ((NameTable.build language declaration).className language))
      ((declaration.parentOf name).parent?.map
        ((NameTable.build other declaration).className other)) := by
  cases hsearch : declaration.parentOf name with
  | found parent =>
    exact .some (sameClass_className hnames hothers (mem_keys_of_parentOf hsearch))
  | notFound => exact .none
  | ambiguous names => exact .none

/-- What two languages show for a name is the class of its model, or the identifier. -/
theorem showsSame_className (name : String) :
    ShowsSame language other (sideBySide language other declaration) name
      ((NameTable.build language declaration).className language name,
        (NameTable.build other declaration).className other name) := by
  rw [sideBySide_eq]
  by_cases hname : name ∈ declaration.models.keys
  · obtain ⟨entry, hentry, rfl⟩ := List.mem_map.mp hname
    exact .declared (List.mem_map_of_mem hentry) rfl rfl
  · rw [NameTable.className_of_notMem hname, NameTable.className_of_notMem hname]
    refine .undeclared fun p hp heq => ?_
    obtain ⟨entry, hentry, rfl⟩ := List.mem_map.mp hp
    exact hname (heq ▸ List.mem_map_of_mem hentry)

theorem parents_sideBySide (hnames : language.NamesFiles) (hothers : other.NamesFiles)
    (declaration : Declaration) :
    List.Forall₂
      (fun m n => Option.Rel (SameClass (sideBySide language other declaration)) m.parent n.parent)
      (ready language declaration).models (ready other declaration).models := by
  rw [models_ready, models_ready, Written.map, Written.map, List.forall₂_map_left_iff,
    List.forall₂_map_right_iff, List.forall₂_same]
  exact fun entry _ => rel_parents hnames hothers entry.1

/-- Sub types are shown one by one, in the order in which the model lists them. -/
theorem subTypes_sideBySide (language other : Language) (declaration : Declaration) :
    List.Forall₂ (fun (entry : String × Declaration.Model) p =>
        p.1.subTypes.length = p.2.subTypes.length ∧
          List.Forall₂ (ShowsSame language other (sideBySide language other declaration))
            (entry.2.subTypes.getD []) (p.1.subTypes.zip p.2.subTypes))
      declaration.models.entries (sideBySide language other declaration) := by
  conv => arg 3; rw [sideBySide_eq]
  rw [List.forall₂_map_right_iff, List.forall₂_same]
  intro entry _
  constructor
  · exact (List.length_map _).trans (List.length_map _).symm
  · change List.Forall₂ _ _ (((entry.2.subTypes.getD []).map _).zip
      ((entry.2.subTypes.getD []).map _))
    rw [List.zip_map', List.forall₂_map_right_iff, List.forall₂_same]
    exact fun name _ => showsSame_className name

/-! ## Agreement -/

theorem language_iterate_register (calls : Nat) (c : Converter) :
    (register^[calls] c).language = c.language ∧
      (register^[calls] c).declaration = c.declaration := by
  induction calls generalizing c with
  | zero => exact ⟨rfl, rfl⟩
  | succ calls ih =>
    rw [Function.iterate_succ_apply]
    refine (ih c.register).imp (·.trans ?_) (·.trans ?_)
    all_goals
      unfold register
      split <;> rfl

/-- Registering the names, any number of times, changes no descriptor of a model. -/
theorem models_iterate_eq_ready (calls : Nat) (language : Language) (declaration : Declaration) :
    (register^[calls] { language, declaration }).models = (ready language declaration).models := by
  rw [models_iterate_register, ready, models_register]

/-- **Two languages that name files** say the same about a declaration, before the names are
registered and after that. -/
theorem agrees_of_namesFiles (hnames : language.NamesFiles) (hothers : other.NamesFiles)
    (declaration : Declaration) (calls calls' : Nat) :
    Agrees (register^[calls] { language, declaration })
      (register^[calls'] { language := other, declaration }) := by
  obtain ⟨hlanguage, hdeclaration⟩ := language_iterate_register calls { language, declaration }
  obtain ⟨hother, -⟩ := language_iterate_register calls' { language := other, declaration }
  refine ⟨?_, ?_, ?_, ?_⟩
  · rw [models_iterate_register, models_iterate_register]
    exact map_neutral_models language other _ _ declaration
  · rw [apis_iterate_register, apis_iterate_register]
    exact map_neutral_apiDescriptors language other _ _ _ _ _
  · rw [models_iterate_eq_ready, models_iterate_eq_ready]
    exact parents_sideBySide hnames hothers declaration
  · rw [models_iterate_eq_ready, models_iterate_eq_ready, hlanguage, hother, hdeclaration]
    exact subTypes_sideBySide language other declaration

/-- **C# and TypeScript** say the same about a declaration. -/
theorem csharp_agrees_typescript (declaration : Declaration) (calls calls' : Nat) :
    Agrees (register^[calls] { language := CSharp.language, declaration })
      (register^[calls'] { language := TypeScript.language, declaration }) :=
  agrees_of_namesFiles CSharp.namesFiles TypeScript.namesFiles declaration calls calls'

/-- A keyword of C# with a declared and an undeclared sub type, and a name that differs from it by
case only. -/
def keywordListed : Declaration where
  models := ⟨[("object", { subTypes := some ["string-list", "class"] }), ("Object", {}),
    ("string-list", { description := "names" })], by decide⟩

example : ((ready CSharp.language keywordListed).models.map
      fun m => (m.name, m.parent, m.subTypes)) =
        [("@object", none, ["string_list", "@class"]), ("Object1", none, []),
          ("string_list", some "@object", [])] ∧
    ((ready TypeScript.language keywordListed).models.map
      fun m => (m.name, m.parent, m.subTypes)) =
        [("Object", none, ["StringList", "Class"]), ("Object1", none, []),
          ("StringList", some "Object", [])] := by decide +kernel

end Converter

end Stencil
