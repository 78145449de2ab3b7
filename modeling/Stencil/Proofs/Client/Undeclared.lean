import Stencil.Proofs.Client.References

/-!
# References to undeclared models

A model that is mentioned without being declared is shown as the identifier of its name. The
table of names is not asked for it, so that the identifier may happen to be the class of another
model. That takes a name that changed on its way: two texts of which each is an identifier as it
stands do not meet.

## Main definitions

* `Client.ShowsAs declaration name className`: all that mentions the model `name` shows the class
  `className`

## Main results

* `Client.showsAs_className`: all that mentions a model shows what the table gives for it
* `Client.undeclared_showsAs`: an undeclared model is shown as the identifier of its name, and
  when this is the class of a declared one
-/

namespace Stencil

open Naming

namespace Client

variable {language : Language}

/-- In a declaration and the descriptors made of it, all that mentions the model `name` shows
the class `className`. -/
structure ShowsAs (language : Language) (declaration : Declaration) (name className : String) :
    Prop where
  properties : List.Forall₂ (fun (entry : String × Declaration.Model) m =>
      List.Forall₂ (fun (property : String × Declaration.Property) d =>
          ShowsClass language name className property.2.Mentions (propertyKind property.2) d.type)
        entry.2.properties.entries m.properties)
    declaration.models.entries (Converter.ready language declaration).models
  subTypes : List.Forall₂ (fun (entry : String × Declaration.Model) m =>
      List.Forall₂ (fun sub shown => sub = name → shown = className)
        (entry.2.subTypes.getD []) m.subTypes)
    declaration.models.entries (Converter.ready language declaration).models
  returns : List.Forall₂ (fun (api : Declaration.Api) a =>
      List.Forall₂ (fun (o : Declaration.Operation) d =>
          ShowsClass language name className o.Mentions (returnKind o) d.returnType)
        api.operations a.operations)
    (declaration.apis.getD []) (Converter.ready language declaration).apis
  parameters : List.Forall₂ (fun (api : Declaration.Api) a =>
      List.Forall₂ (fun (o : Declaration.Operation) d =>
          List.Forall₂ (fun (p : Declaration.Parameter) shown =>
              ShowsClass language name className p.Mentions (parameterKind p) shown.type)
            o.parameters d.parameters)
        api.operations a.operations)
    (declaration.apis.getD []) (Converter.ready language declaration).apis

/-- **References** show what the table of names gives for the model, declared or not. -/
theorem showsAs_className (language : Language) (declaration : Declaration) (name : String) :
    ShowsAs language declaration name
      ((NameTable.build language declaration).className language name) := by
  refine ⟨?_, ?_, showsClass_returns _ _, showsClass_parameters _ _⟩
  · exact List.forall₂_map_right_iff.mpr (List.forall₂_same.mpr fun entry _ =>
      showsClass_properties _ declaration entry.1 entry.2)
  · refine List.forall₂_map_right_iff.mpr (List.forall₂_same.mpr fun entry _ => ?_)
    refine List.forall₂_map_right_iff.mpr (List.forall₂_same.mpr fun sub _ hsub => ?_)
    rw [hsub]
    rfl

/-- The table does not know an undeclared model, whose class is then the identifier of its
name. -/
theorem NameTable.className_of_notMem {declaration : Declaration} {name : String}
    (h : name ∉ declaration.models.keys) :
    (build language declaration).className language name = language.typeIdentifier name := by
  have hkeys : name ∉ (build language declaration).classes.map (·.1) := by
    rwa [build, keys_classNames]
  unfold className lookUp
  cases hfound : (build language declaration).classes.lookup name with
  | none => rfl
  | some found =>
    exact absurd (List.mem_map.mpr ⟨_, mem_of_lookup_eq_some hfound, rfl⟩) hkeys

end Client

namespace Converter

variable {language : Language}

theorem nodup_names (hnames : language.NamesFiles) (declaration : Declaration) :
    ((ready language declaration).models.map (·.name)).Nodup := by
  -- Names that were equal would be so without what a file leaves out of them.
  have hbare : (ready language declaration).models.map (bare ∘ (·.name)) =
      (ready language declaration).models.map (·.fileName) :=
    List.map_congr_left fun m hm => (fileName_eq_bare hnames hm).symm
  refine List.Nodup.of_map bare ?_
  rw [List.map_map, hbare]
  exact nodup_fileNames hnames declaration

/-- The number behind the name of a class is the one behind the name of its file. -/
theorem name_eq_numbered_iff (hnames : language.NamesFiles) {declaration : Declaration}
    {m : Client.ModelDescriptor} (hm : m ∈ (ready language declaration).models) (n : Nat) :
    m.name = Scope.numbered (language.typeIdentifier m.declaredName) n ↔
      m.fileName = Scope.numbered (language.fileStem (language.typeIdentifier m.declaredName))
        n := by
  obtain ⟨k, hk⟩ := exists_numbered_name hm
  rw [fileName_eq_bare hnames hm, hk, bare_numbered, hnames.fileStem_typeIdentifier]
  exact (Scope.numbered_injective _).eq_iff.trans (Scope.numbered_injective _).eq_iff.symm

end Converter

namespace Client

variable {language : Language}

/-- **Undeclared models**: all that mentions one shows the identifier of its name. This is the
class of a declared model exactly if it is the identifier of the declared name with the number
that the model was given; there is at most one such model, and the identifier of one of the two
names then differs from the name itself. -/
theorem undeclared_showsAs {key : String} (h : Registry.builtin.resolve key = .ok language)
    (declaration : Declaration) {name : String} (hname : name ∉ declaration.models.keys) :
    ShowsAs language declaration name (language.typeIdentifier name) ∧
      (∀ m ∈ (Converter.ready language declaration).models,
        m.name = language.typeIdentifier name ↔ ∃ n,
          m.fileName =
              Scope.numbered (language.fileStem (language.typeIdentifier m.declaredName)) n ∧
            language.typeIdentifier name =
              Scope.numbered (language.typeIdentifier m.declaredName) n) ∧
      (∀ m ∈ (Converter.ready language declaration).models,
        ∀ other ∈ (Converter.ready language declaration).models,
          m.name = language.typeIdentifier name → other.name = language.typeIdentifier name →
            m = other) ∧
      ∀ m ∈ (Converter.ready language declaration).models,
        m.name = language.typeIdentifier name →
          language.typeIdentifier name ≠ name ∨ m.name ≠ m.declaredName := by
  have hnames := Registry.namesFiles_of_resolve h
  refine ⟨?_, ?_, ?_, ?_⟩
  · have hshows := showsAs_className language declaration name
    rwa [NameTable.className_of_notMem hname] at hshows
  · intro m hm
    constructor
    · intro heq
      obtain ⟨n, hn⟩ := Converter.exists_numbered_name hm
      exact ⟨n, (Converter.name_eq_numbered_iff hnames hm n).mp hn, heq.symm.trans hn⟩
    · rintro ⟨n, hfile, heq⟩
      exact ((Converter.name_eq_numbered_iff hnames hm n).mpr hfile).trans heq.symm
  · intro m hm other hother hmname hothername
    exact List.inj_on_of_nodup_map (Converter.nodup_names hnames declaration) hm hother
      (hmname.trans hothername.symm)
  · -- Were both names as they are written, the undeclared one would be that of the model.
    intro m hm heq
    by_contra hsame
    push Not at hsame
    obtain ⟨entry, hentry, rfl⟩ := List.mem_map.mp hm
    refine hname (List.mem_map.mpr ⟨entry, hentry, ?_⟩)
    exact hsame.2.symm.trans (heq.trans hsame.1)

/-- A model whose name becomes another identifier, and a reference to this identifier. -/
def hyphenDeclared : Declaration where
  models := ⟨[("pet-item", { properties := ⟨[("twin", { reference := "pet_item" })], by decide⟩ })],
    by decide⟩

theorem undeclared_showsAs_hyphenDeclared :
    Registry.builtin.resolve "c#" = .ok CSharp.language ∧
      "pet_item" ∉ hyphenDeclared.models.keys ∧
      ShowsAs CSharp.language hyphenDeclared "pet_item" "pet_item" ∧
      ∀ m ∈ (Converter.ready CSharp.language hyphenDeclared).models,
        m.name = "pet_item" → m.name ≠ m.declaredName := by
  have hname : "pet_item" ∉ hyphenDeclared.models.keys := by decide
  have hidentifier : CSharp.language.typeIdentifier "pet_item" = "pet_item" := by decide +kernel
  obtain ⟨hshows, -, -, hchanged⟩ :=
    @undeclared_showsAs CSharp.language "c#" rfl hyphenDeclared "pet_item" hname
  rw [hidentifier] at hshows hchanged
  exact ⟨rfl, hname, hshows, fun m hm heq => (hchanged m hm heq).resolve_left fun h => h rfl⟩

/-- A reference to an undeclared model shows the class of a declared one. -/
theorem undeclared_eq_name_hyphenDeclared :
    "pet_item" ∉ hyphenDeclared.models.keys ∧
      ∃ m ∈ (Converter.ready CSharp.language hyphenDeclared).models,
        m.declaredName = "pet-item" ∧
          m.name = (NameTable.build CSharp.language hyphenDeclared).className CSharp.language
            "pet_item" ∧
          m.properties.map (fun p => (p.jsonName, p.type)) = [("twin", m.name)] := by
  decide +kernel

end Client

end Stencil
