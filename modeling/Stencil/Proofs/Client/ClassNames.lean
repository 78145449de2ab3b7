import Stencil.Client.Conversion
import Stencil.Proofs.Language.Identifiers

/-!
# Names of classes and of their files

The table of names gives each declared model the identifier of its name with a number behind,
chosen so that the files of the classes differ without regard to case. The descriptors of the
models show these names, one for each model in the order of the declaration.

## Main definitions

* `Converter.ready language declaration`: a converter with its names registered

## Main results

* `NameTable.fileStems_classNames`: the files of the classes are the stems that a scope without
  case hands out
* `Converter.fileNames_distinct`: the files of the classes differ in lower case, their names
  differ without an `@` in front, and each file has the bare name of its class
-/

namespace Stencil

open Naming

namespace Client.NameTable

variable (language : Language)

/-! ## The classes of models named one after the other -/

/-- A number goes from the file of a class to the class as it is. -/
theorem append_behind_numbered (candidate stem : String) (n : Nat) :
    candidate ++ behind stem.toList.length (Scope.numbered stem n) =
      Scope.numbered candidate n := by
  obtain ⟨digits, -, hname⟩ := Scope.exists_digits n
  rw [← String.toList_inj, String.toList_append, behind, hname, hname, String.toList_ofList,
    List.drop_left]

theorem classNames_cons (stems : Scope) (model : String) (models : List String) :
    classNames language stems (model :: models) =
      (model, Scope.numbered (language.typeIdentifier model)
        (stems.freeNumber (language.fileStem (language.typeIdentifier model)))) ::
      classNames language
        (stems.claim (language.fileStem (language.typeIdentifier model))).2 models := by
  rw [classNames, ← append_behind_numbered]
  rfl

@[simp] theorem keys_classNames (stems : Scope) (models : List String) :
    (classNames language stems models).map (·.1) = models := by
  induction models generalizing stems with
  | nil => rfl
  | cons model models ih => rw [classNames_cons, List.map_cons, ih]

/-- A class is named by the identifier of its model and a number. -/
theorem exists_numbered_of_mem_classNames {stems : Scope} {models : List String}
    {entry : String × String} (h : entry ∈ classNames language stems models) :
    ∃ n, entry.2 = Scope.numbered (language.typeIdentifier entry.1) n := by
  induction models generalizing stems with
  | nil => simp [classNames] at h
  | cons model models ih =>
    rw [classNames_cons] at h
    rcases List.mem_cons.mp h with rfl | h
    · exact ⟨_, rfl⟩
    · exact ih h

/-- **The bare names of classes** are those that the scope hands out. -/
theorem fileStems_classNames {language : Language} (hnames : language.NamesFiles)
    (stems : Scope) (models : List String) :
    (classNames language stems models).map (fun entry => bare entry.2) =
      stems.claimAll (models.map fun model => bare (language.typeIdentifier model)) := by
  -- The bare class is the stem that is claimed: its number is the one of the claim.
  induction models generalizing stems with
  | nil => rfl
  | cons model models ih =>
    rw [classNames_cons, hnames.fileStem_typeIdentifier, List.map_cons, List.map_cons, ih,
      Scope.claimAll_cons, bare_numbered, Scope.claim_fst]

/-! ## Looking classes up -/

variable {language}

theorem map_lookUp {classes : List (String × String)} (h : (classes.map (·.1)).Nodup) :
    (classes.map (·.1)).map (lookUp language classes) = classes.map (·.2) := by
  rw [List.map_map]
  refine List.map_congr_left fun entry hentry => ?_
  simp [lookUp, lookup_eq_some_of_mem h hentry]

/-- The classes of the declared models are those they are given one after the other. -/
theorem map_className_build (declaration : Declaration) :
    declaration.models.keys.map ((build language declaration).className language) =
      (classNames language ⟨true, []⟩ declaration.models.keys).map (·.2) := by
  have hkeys : ((classNames language ⟨true, []⟩ declaration.models.keys).map (·.1)).Nodup := by
    rw [keys_classNames]
    exact declaration.models.nodup_keys
  rw [← @map_lookUp language _ hkeys, keys_classNames]
  rfl

/-- The class of a model, declared or not, is named by its identifier and a number. -/
theorem exists_numbered_className (declaration : Declaration) (model : String) :
    ∃ n, (build language declaration).className language model =
      Scope.numbered (language.typeIdentifier model) n := by
  unfold className lookUp
  cases hfound : (build language declaration).classes.lookup model with
  | none => exact ⟨0, rfl⟩
  | some name =>
    obtain ⟨n, hn⟩ := exists_numbered_of_mem_classNames language (mem_of_lookup_eq_some hfound)
    exact ⟨n, hn⟩

end Client.NameTable

/-! ## Descriptors -/

namespace Converter

/-- A converter with its names registered. -/
def ready (language : Language) (declaration : Declaration) : Converter :=
  register { language, declaration }

variable {language : Language}

theorem models_ready (language : Language) (declaration : Declaration) :
    (ready language declaration).models = declaration.models.map fun (name, model) =>
      Client.modelDescriptor language (Client.NameTable.build language declaration) declaration
        name model := rfl

theorem map_name_models (declaration : Declaration) :
    (ready language declaration).models.map (·.name) =
      (Client.NameTable.classNames language ⟨true, []⟩ declaration.models.keys).map (·.2) := by
  rw [models_ready, ← Client.NameTable.map_className_build, Written.map, List.map_map,
    Written.keys, List.map_map]
  rfl

/-- A class is named by the identifier of its model and a number. -/
theorem exists_numbered_name {declaration : Declaration} {m : Client.ModelDescriptor}
    (hm : m ∈ (ready language declaration).models) :
    ∃ n, m.name = Scope.numbered (language.typeIdentifier m.declaredName) n := by
  rw [models_ready] at hm
  obtain ⟨⟨model, definition⟩, -, rfl⟩ := List.mem_map.mp hm
  exact Client.NameTable.exists_numbered_className declaration model

theorem fileName_eq_fileStem {declaration : Declaration} {m : Client.ModelDescriptor}
    (hm : m ∈ (ready language declaration).models) : m.fileName = language.fileStem m.name := by
  rw [models_ready] at hm
  obtain ⟨⟨model, definition⟩, -, rfl⟩ := List.mem_map.mp hm
  rfl

theorem fileName_eq_bare (hnames : language.NamesFiles) {declaration : Declaration}
    {m : Client.ModelDescriptor} (hm : m ∈ (ready language declaration).models) :
    m.fileName = bare m.name := by
  obtain ⟨n, hn⟩ := exists_numbered_name hm
  rw [fileName_eq_fileStem hm, hn, hnames.fileStem_numbered]

theorem slash_notMem_fileName (hnames : language.NamesFiles) {declaration : Declaration}
    {m : Client.ModelDescriptor} (hm : m ∈ (ready language declaration).models) :
    '/' ∉ m.fileName.toList := by
  obtain ⟨n, hn⟩ := exists_numbered_name hm
  obtain ⟨digits, hdigits, hname⟩ := Scope.exists_digits n
  rw [fileName_eq_bare hnames hm, hn, bare, hname, bareChars_append digits hdigits,
    String.toList_ofList]
  intro hslash
  rcases List.mem_append.mp hslash with hslash | hslash
  · exact hnames.slash_notMem m.declaredName (mem_of_mem_bareChars hslash)
  · exact absurd (hdigits '/' hslash) (by decide)

/-- The files of the classes are the stems that a scope without case hands out. -/
theorem map_fileName_models (hnames : language.NamesFiles) (declaration : Declaration) :
    (ready language declaration).models.map (·.fileName) =
      Scope.claimAll ⟨true, []⟩ (declaration.models.keys.map fun model =>
        language.fileStem (language.typeIdentifier model)) := by
  have hbare := congrArg (List.map bare) (@map_name_models language declaration)
  rw [List.map_map, List.map_map] at hbare
  calc (ready language declaration).models.map (·.fileName)
      = (ready language declaration).models.map (bare ∘ (·.name)) :=
        List.map_congr_left fun m hm => fileName_eq_bare hnames hm
    _ = Scope.claimAll ⟨true, []⟩ (declaration.models.keys.map fun model =>
          bare (language.typeIdentifier model)) :=
        hbare.trans (Client.NameTable.fileStems_classNames hnames _ _)
    _ = _ := by simp only [hnames.fileStem_typeIdentifier]

theorem nodup_lower_fileNames (hnames : language.NamesFiles) (declaration : Declaration) :
    ((ready language declaration).models.map fun m => Text.lowerText m.fileName).Nodup := by
  have hkeys := Scope.nodup_keys_claimAll ⟨true, []⟩ (declaration.models.keys.map fun model =>
    language.fileStem (language.typeIdentifier model))
  rw [← map_fileName_models hnames, List.map_map] at hkeys
  exact hkeys

theorem nodup_fileNames (hnames : language.NamesFiles) (declaration : Declaration) :
    ((ready language declaration).models.map (·.fileName)).Nodup :=
  List.Nodup.of_map Text.lowerText (by
    rw [List.map_map]
    exact nodup_lower_fileNames hnames declaration)

/-- **Files of classes**: they are named by the stems that are claimed without regard to case,
in the order of the declaration, so that they differ in lower case. The name of a class takes
over the number of its file, and without an `@` in front it is the name of the file. -/
theorem fileNames_distinct {key : String} (h : Registry.builtin.resolve key = .ok language)
    (declaration : Declaration) :
    (ready language declaration).models.map (·.fileName) =
        Scope.claimAll ⟨true, []⟩ (declaration.models.keys.map fun model =>
          language.fileStem (language.typeIdentifier model)) ∧
      ((ready language declaration).models.map fun m => Text.lowerText m.fileName).Nodup ∧
      ((ready language declaration).models.map fun m => bare m.name).Nodup ∧
      ∀ m ∈ (ready language declaration).models, m.fileName = bare m.name ∧
        ∃ n, m.name = Scope.numbered (language.typeIdentifier m.declaredName) n ∧
          m.fileName =
            Scope.numbered (language.fileStem (language.typeIdentifier m.declaredName)) n := by
  have hnames := Registry.namesFiles_of_resolve h
  refine ⟨map_fileName_models hnames declaration, nodup_lower_fileNames hnames declaration,
    ?_, ?_⟩
  · rw [← List.map_congr_left fun m hm => fileName_eq_bare hnames hm]
    exact nodup_fileNames hnames declaration
  · intro m hm
    obtain ⟨n, hn⟩ := exists_numbered_name hm
    refine ⟨fileName_eq_bare hnames hm, n, hn, ?_⟩
    -- The number of the class is the number of its file.
    rw [fileName_eq_bare hnames hm, hn, bare_numbered, hnames.fileStem_typeIdentifier]

/-- Two models of which one is a keyword in C#, as the lower case of the other. -/
def keywordAndPlain : Declaration :=
  { models := ⟨[("object", {}), ("Object", {})], by decide⟩ }

theorem fileNames_distinct_keywordAndPlain :
    Registry.builtin.resolve "c#" = .ok CSharp.language ∧
      (ready CSharp.language keywordAndPlain).models.map (·.name) = ["@object", "Object1"] ∧
      ((ready CSharp.language keywordAndPlain).models.map fun m =>
        Text.lowerText m.fileName).Nodup ∧
      ((ready CSharp.language keywordAndPlain).models.map fun m => bare m.name).Nodup ∧
      ∀ m ∈ (ready CSharp.language keywordAndPlain).models, m.fileName = bare m.name := by
  obtain ⟨-, hlower, hbare, hfile⟩ := @fileNames_distinct CSharp.language "c#" rfl keywordAndPlain
  exact ⟨rfl, by decide +kernel, hlower, hbare, fun m hm => (hfile m hm).1⟩

end Converter

end Stencil
