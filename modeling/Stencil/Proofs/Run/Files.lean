import Stencil.Proofs.Address.FileName
import Stencil.Proofs.Run.FirstFailure
import Stencil.Proofs.Storage.File

/-!
# The files of a run

Without one file for everything, each unit has a file of its own name. The names of the classes
differ, but the unit of all operations is named by the input and comes last, so that it replaces
the file of a class with that name. No other file is replaced.

## Main results

* `EmitsAll.holds`: what is emitted is held until its file is written again
* `nodup_names_iff`: when the units of a document have names of their own
* `files_of_outcome`: what the files of a run hold in the end
-/

namespace Stencil

theorem Registry.extension_of_resolve {key : String} {language : Language}
    (h : builtin.resolve key = .ok language) :
    language.extension = "cs" ∨ language.extension = "ts" := by
  rcases eq_of_resolve_builtin h with rfl | rfl
  · exact Or.inl rfl
  · exact Or.inr rfl

/-! ## Units and their files -/

section Units

variable {language : Language} {o : Options} {document : Document}

theorem map_name_units (document : Document) (o : Options) (language : Language) :
    (document.units o language).map (·.name) =
      (Converter.ready language document.declaration).models.map (·.fileName) ++
        [(Locator.parse o.input).baseName] := by
  rw [Document.units, List.map_append, List.map_map]
  rfl

/-- **Names of units** are different exactly when no class has its file named by the input. -/
theorem nodup_names_iff (hnames : language.NamesFiles) :
    ((document.units o language).map (·.name)).Nodup ↔
      (Locator.parse o.input).baseName ∉
        (Converter.ready language document.declaration).models.map (·.fileName) := by
  rw [map_name_units, List.nodup_append]
  constructor
  · rintro ⟨-, -, hdiffer⟩ hmem
    exact hdiffer _ hmem _ (List.mem_singleton_self _) rfl
  · intro hnotMem
    refine ⟨Converter.nodup_fileNames hnames document.declaration, List.nodup_singleton _, ?_⟩
    rintro name hname other hother rfl
    exact hnotMem (List.mem_singleton.mp hother ▸ hname)

theorem slash_notMem_name (hnames : language.NamesFiles) {u : RenderUnit}
    (hu : u ∈ document.units o language) : '/' ∉ u.name.toList := by
  rcases List.mem_append.mp hu with hu | hu
  · obtain ⟨m, hm, rfl⟩ := List.mem_map.mp hu
    exact Converter.slash_notMem_fileName hnames hm
  · obtain rfl := List.mem_singleton.mp hu
    exact (Locator.parse o.input).slash_notMem_baseName

/-- Without one file for all units, the path of a file is a text before its name. -/
theorem exists_target_eq (hmode : o.singleFile = none) (extension : String) :
    ∃ common : String, ∀ u : RenderUnit, '/' ∉ u.name.toList →
      u.target o extension = common ++ (u.name ++ ("." ++ extension)) := by
  obtain ⟨common, hcommon⟩ := Path.exists_join_append o.outputFolder o.outputPrefix
  refine ⟨common, fun u hslash => ?_⟩
  have htarget : u.target o extension =
      Path.join o.outputFolder (o.outputPrefix ++ (u.name ++ ("." ++ extension))) := by
    simp only [RenderUnit.target, Emitter.target, Emitter.ofOptions, hmode, String.append_assoc]
  rw [htarget, hcommon]
  rw [String.toList_append, List.head?_append]
  cases hhead : u.name.toList.head? with
  | none => simp
  | some first =>
    have hfirst : first ≠ '/' := fun h => hslash (h ▸ List.mem_of_mem_head? hhead)
    simpa using hfirst

theorem notMem_file {extension name : String} (hextension : extension = "cs" ∨ extension = "ts")
    (hslash : '/' ∉ name.toList) :
    '/' ∉ (name ++ ("." ++ extension)).toList ∧
      ∃ c ∈ (name ++ ("." ++ extension)).toList, c ≠ '.' := by
  rcases hextension with rfl | rfl
  · exact ⟨by simp [hslash], 's', by simp, by decide⟩
  · exact ⟨by simp [hslash], 's', by simp, by decide⟩

variable {extension : String} (hmode : o.singleFile = none)
include hmode

theorem nodup_targets_iff {units : List RenderUnit} (hunits : ∀ u ∈ units, '/' ∉ u.name.toList) :
    (units.map (·.target o extension)).Nodup ↔ (units.map (·.name)).Nodup := by
  obtain ⟨common, hcommon⟩ := exists_target_eq hmode extension
  have htargets : units.map (·.target o extension) =
      (units.map (·.name)).map fun name => common ++ (name ++ ("." ++ extension)) := by
    rw [List.map_map]
    exact List.map_congr_left fun u hu => hcommon u (hunits u hu)
  have hinjective : Function.Injective
      fun name : String => common ++ (name ++ ("." ++ extension)) := fun left right h =>
    (String.append_left_inj _).mp ((String.append_right_inj _).mp h)
  rw [htargets, List.nodup_map_iff hinjective]

/-- The files of a document are different exactly when no class has its file named by the input. -/
theorem nodup_files_iff (hnames : language.NamesFiles) (document : Document) :
    ((document.units o language).map (·.target o extension)).Nodup ↔
      (Locator.parse o.input).baseName ∉
        (Converter.ready language document.declaration).models.map (·.fileName) := by
  rw [nodup_targets_iff hmode fun u hu => slash_notMem_name hnames hu, nodup_names_iff hnames]

/-- Files of different names are at different places. -/
theorem destination_target_ne (hextension : extension = "cs" ∨ extension = "ts")
    {u v : RenderUnit} (hu : '/' ∉ u.name.toList) (hv : '/' ∉ v.name.toList)
    (hne : u.name ≠ v.name) (storage : Storage) :
    storage.destination (u.target o extension) ≠ storage.destination (v.target o extension) := by
  obtain ⟨common, hcommon⟩ := exists_target_eq hmode extension
  rw [hcommon u hu, hcommon v hv]
  refine Storage.destination_append_ne storage common (notMem_file hextension hu)
    (notMem_file hextension hv) fun h => hne ?_
  exact String.append_left_inj _ |>.mp h

end Units

/-! ## Texts and their files -/

section Emission

variable {web : Address.Url → Option Credentials → Except String String}
  {engine : Template.Engine} {o : Options} {extension : String} {before after : Storage}
  (hmode : o.singleFile = none)
include hmode

theorem Emits.exists_writeFile {u : RenderUnit} {text : String}
    (h : Emits (Storage.environment web engine) o extension before u text after) :
    ∃ made, before.GainsFolders o.outputFolder made ∧
      made.writeFile (u.target o extension) text = .ok after := by
  obtain @⟨made, -, hfolders, hsaved⟩ := h
  have hgains := Storage.gainsFolders_makeFolders before o.outputFolder
  obtain rfl : (before.makeFolders o.outputFolder).1 = made := (Prod.mk.inj hfolders).2
  rw [save, hmode] at hsaved
  exact ⟨_, hgains,
    @Storage.change_of_update_ok (·.writeFile (u.target o extension) text) _ _ hsaved⟩

/-- A file is held while others are emitted. -/
theorem EmitsAll.holds_of_ne {path text : String} {emitted : List (RenderUnit × String)}
    (h : EmitsAll (Storage.environment web engine) o extension before emitted after)
    (hheld : before.Holds path text)
    (hne : ∀ e ∈ emitted, ∀ storage : Storage,
      storage.destination path ≠ storage.destination (e.1.target o extension)) :
    after.Holds path text := by
  induction h with
  | nil => exact hheld
  | cons first _ ih =>
    -- New folders and a file elsewhere: the text is still held when the others start.
    obtain ⟨hfirst, hothers⟩ := List.forall_mem_cons.mp hne
    obtain ⟨made, hgains, hwritten⟩ := first.exists_writeFile hmode
    exact ih ((hheld.of_gainsFolders hgains).of_writeFile hwritten (hfirst made)) hothers

/-- **What is emitted is held** until its file is written again. -/
theorem EmitsAll.holds {front back : List (RenderUnit × String)} {u : RenderUnit} {text : String}
    (h : EmitsAll (Storage.environment web engine) o extension before
      (front ++ (u, text) :: back) after)
    (hne : ∀ e ∈ back, ∀ storage : Storage, storage.destination (u.target o extension) ≠
      storage.destination (e.1.target o extension)) :
    after.Holds (u.target o extension) text := by
  -- Induction on what is emitted before the unit, which does not matter.
  induction front generalizing before with
  | nil =>
    cases h with
    | cons first others =>
      obtain ⟨made, -, hwritten⟩ := first.exists_writeFile hmode
      exact others.holds_of_ne hmode (Storage.holds_of_writeFile hwritten) hne
  | cons e front ih =>
    cases h with
    | cons _ others => exact ih others

/-- A file holds the text of its unit if no later unit has the name. -/
theorem readText_of_notMem {language : Language} {document : Document}
    (hnames : language.NamesFiles) (hextension : extension = "cs" ∨ extension = "ts")
    {front back : List (RenderUnit × String)} {e : RenderUnit × String}
    (hunits : (front ++ e :: back).map (·.1) = document.units o language)
    (h : EmitsAll (Storage.environment web engine) o extension before (front ++ e :: back) after)
    (hlater : e.1.name ∉ back.map (·.1.name)) :
    after.readText (e.1.target o extension) = .ok e.2 := by
  have hslash : ∀ d ∈ front ++ e :: back, '/' ∉ d.1.name.toList := by
    intro d hd
    exact slash_notMem_name hnames (hunits ▸ List.mem_map_of_mem hd)
  refine (h.holds hmode fun d hd => ?_).readText
  apply destination_target_ne hmode hextension (hslash e (by simp)) (hslash d (by simp [hd]))
  intro hsame
  exact hlater (hsame ▸ List.mem_map_of_mem hd)

omit hmode in
/-- The operations come last, behind the classes. -/
theorem exists_classes_append {language : Language} {document : Document}
    {emitted : List (RenderUnit × String)}
    (hunits : emitted.map (·.1) = document.units o language) :
    ∃ classes last, emitted = classes ++ [last] ∧
      classes.map (·.1.name) =
        (Converter.ready language document.declaration).models.map (·.fileName) ∧
      last.1.name = (Locator.parse o.input).baseName := by
  obtain ⟨classes, operations, rfl, hclasses, hoperations⟩ := List.map_eq_append_iff.mp hunits
  obtain ⟨last, rfl, hlast⟩ := List.map_eq_singleton_iff.mp hoperations
  refine ⟨classes, last, rfl, ?_, ?_⟩
  · have hmap := congrArg (List.map (·.name)) hclasses
    rwa [List.map_map, List.map_map] at hmap
  · rw [hlast]
    rfl

/-- The file of a class holds its text unless the operations have the name of the class. -/
theorem readText_of_mem_classes {language : Language} {document : Document}
    (hnames : language.NamesFiles) (hextension : extension = "cs" ∨ extension = "ts")
    {classes : List (RenderUnit × String)} {last : RenderUnit × String}
    (hunits : (classes ++ [last]).map (·.1) = document.units o language)
    (hclasses : classes.map (·.1.name) =
      (Converter.ready language document.declaration).models.map (·.fileName))
    (h : EmitsAll (Storage.environment web engine) o extension before (classes ++ [last]) after)
    {e : RenderUnit × String} (he : e ∈ classes) (hne : e.1.name ≠ last.1.name) :
    after.readText (e.1.target o extension) = .ok e.2 := by
  obtain ⟨front, back, rfl⟩ := List.append_of_mem he
  rw [List.append_assoc, List.cons_append] at hunits h
  apply readText_of_notMem hmode hnames hextension hunits h
  -- The class has its name alone among the classes; only the operations come behind them.
  have hnodup := Converter.nodup_fileNames hnames document.declaration
  rw [← hclasses, List.map_append, List.map_cons] at hnodup
  have hback := (List.nodup_cons.mp (List.nodup_append.mp hnodup).2.1).1
  simp only [List.map_append, List.map_cons, List.map_nil, List.mem_append, List.mem_singleton]
  rintro (hmem | hsame)
  · exact hback hmem
  · exact hne hsame

/-- **The files of a run**: there is one more than there are models, and each of them holds in
the end what was rendered for its unit, except where the operations have the name of a class. So
the files are different and each unit has its text exactly when no class has its file named by
the input. -/
theorem files_of_outcome {key : String} {language : Language} {text : String} {report : Report}
    (hkey : Registry.builtin.resolve key = .ok language)
    (hrun : outcome (generateFromText (Storage.environment web engine) o language text) before =
      (.ok report, after)) :
    ∃ document emitted, Document.parse text = .ok document ∧
      emitted.map (·.1) = document.units o language ∧
      EmitsAll (Storage.environment web engine) o language.extension before emitted after ∧
      report.files = emitted.map (·.1.target o language.extension) ∧
      report.files.length = document.declaration.models.entries.length + 1 ∧
      (∀ e ∈ emitted, e.1.name ≠ (Locator.parse o.input).baseName →
        after.readText (e.1.target o language.extension) = .ok e.2) ∧
      (∀ e, emitted.getLast? = some e →
        after.readText (e.1.target o language.extension) = .ok e.2) ∧
      ((report.files.Nodup ∧ ∀ e ∈ emitted,
          after.readText (e.1.target o language.extension) = .ok e.2) ↔
        (Locator.parse o.input).baseName ∉
          (Converter.ready language document.declaration).models.map (·.fileName)) := by
  have hnames := Registry.namesFiles_of_resolve hkey
  have hextension := Registry.extension_of_resolve hkey
  obtain ⟨document, emitted, hparsed, hunits, hall, rfl⟩ :=
    exists_emitsAll_of_outcome (Storage.careful_environment web engine) hrun
  obtain ⟨classes, last, rfl, hclasses, hlast⟩ := exists_classes_append hunits
  have hclassText : ∀ e ∈ classes, e.1.name ≠ (Locator.parse o.input).baseName →
      after.readText (e.1.target o language.extension) = .ok e.2 := by
    intro e he hne
    rw [← hlast] at hne
    exact readText_of_mem_classes hmode hnames hextension hunits hclasses hall he hne
  have hlastText : after.readText (last.1.target o language.extension) = .ok last.2 :=
    readText_of_notMem hmode hnames hextension hunits hall List.not_mem_nil
  have hfiles : (document.report ((classes ++ [last]).map
      (·.1.target o language.extension))).files =
        (document.units o language).map (·.target o language.extension) := by
    rw [← hunits, List.map_map]
    rfl
  refine ⟨document, classes ++ [last], hparsed, hunits, hall, rfl, ?_, ?_, ?_, ?_⟩
  · rw [hfiles, List.length_map, Document.length_units]
  · intro e he hne
    rcases List.mem_append.mp he with he | he
    · exact hclassText e he hne
    · exact absurd (List.mem_singleton.mp he ▸ hlast) hne
  · intro e he
    rw [List.getLast?_append, List.getLast?_singleton, Option.some_or] at he
    rw [← Option.some.inj he]
    exact hlastText
  · rw [hfiles, nodup_files_iff hmode hnames]
    constructor
    · rintro ⟨hnotMem, -⟩
      exact hnotMem
    · intro hnotMem
      refine ⟨hnotMem, fun e he => ?_⟩
      rcases List.mem_append.mp he with he | he
      · apply hclassText e he
        intro hname
        rw [← hclasses, ← hname] at hnotMem
        exact hnotMem (List.mem_map_of_mem he)
      · rw [List.mem_singleton.mp he]
        exact hlastText

end Emission

/-! ## A class that is named like the input -/

/-- Template files for classes and operations. -/
def petsTemplates : List (String × String) :=
  [("ModelTemplate.txt", "model"), ("ActionTemplate.txt", "ops")]

theorem files_of_outcome_petsStorage :
    Registry.builtin.resolve "c#" = .ok CSharp.language ∧ petsOptions.singleFile = none ∧
      ∃ report after, outcome (generateFromText (Storage.environment noWeb) petsOptions
          CSharp.language petsText) (petsStorage petsTemplates) = (.ok report, after) ∧
        report.files = ["out/Pet.cs", "out/pets.cs"] ∧ ∃ document emitted,
          Document.parse petsText = .ok document ∧
          emitted.map (·.1) = document.units petsOptions CSharp.language ∧
          EmitsAll (Storage.environment noWeb) petsOptions "cs" (petsStorage petsTemplates) emitted
            after ∧
          ∀ e ∈ emitted, after.readText (e.1.target petsOptions "cs") = .ok e.2 := by
  have hresult : (outcome (generateFromText (Storage.environment noWeb) petsOptions CSharp.language
      petsText) (petsStorage petsTemplates)).1 = .ok ⟨["out/Pet.cs", "out/pets.cs"], 1, 1, 0⟩ := by
    decide +kernel
  have hclasses : (Document.parse petsText).toOption.map (fun document =>
      (Converter.ready CSharp.language document.declaration).models.map (·.fileName)) =
        some ["Pet"] := by
    decide +kernel
  obtain ⟨after, hrun⟩ := exists_outcome_eq hresult
  obtain ⟨document, emitted, hparsed, hunits, hall, -, -, -, -, hiff⟩ :=
    @files_of_outcome noWeb _ petsOptions _ _ rfl "c#" _ _ _ rfl hrun
  rw [hparsed] at hclasses
  have hnotMem : (Locator.parse petsOptions.input).baseName ∉
      (Converter.ready CSharp.language document.declaration).models.map (·.fileName) := by
    have hpet : (Converter.ready CSharp.language document.declaration).models.map (·.fileName) =
        ["Pet"] := Option.some.inj hclasses
    rw [hpet]
    decide +kernel
  exact ⟨rfl, rfl, _, after, hrun, rfl, document, emitted, hparsed, hunits, hall,
    (hiff.mpr hnotMem).2⟩

/-- A declaration of one model that is named like the file with the declaration. -/
def sameNameText : String :=
  "\x7b\"apis\":[\x7b\"path\":\"/pets\"\x7d],\"models\":\x7b\"pets\":\x7b\x7d\x7d\x7d"

/-- The operations replace the file of the class. -/
theorem classFile_replaced :
    ∃ report after, outcome (generateFromText (Storage.environment noWeb) petsOptions
        CSharp.language sameNameText) (petsStorage petsTemplates) = (.ok report, after) ∧
      report.models = 1 ∧ report.files = ["out/pets.cs", "out/pets.cs"] ∧ ¬ report.files.Nodup ∧
      after.readText "out/pets.cs" = .ok "ops" := by
  have hresult : (outcome (generateFromText (Storage.environment noWeb) petsOptions CSharp.language
      sameNameText) (petsStorage petsTemplates)).1 =
        .ok ⟨["out/pets.cs", "out/pets.cs"], 1, 1, 0⟩ := by
    decide +kernel
  have hfile : (outcome (generateFromText (Storage.environment noWeb) petsOptions CSharp.language
      sameNameText) (petsStorage petsTemplates)).2.readText "out/pets.cs" = .ok "ops" := by
    decide +kernel
  obtain ⟨after, hrun⟩ := exists_outcome_eq hresult
  rw [hrun] at hfile
  exact ⟨_, after, hrun, rfl, rfl, by decide, hfile⟩

end Stencil
