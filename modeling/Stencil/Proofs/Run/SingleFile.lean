import Stencil.Proofs.Run.Files
import Stencil.Proofs.Storage.Appending
import Stencil.Proofs.Storage.Rewriting

/-!
# One file for all units

With one file for everything, each unit of a run is put behind what the file holds: the models in
the order of the declaration, and behind them the operations. Nothing else is written, so that the
templates stay as they are, and several runs into one file leave all that they rendered one behind
the other, as if each had found the storage before the first of them.

## Main definitions

* `Job`: what a run behind the loading is made from
* `Job.IntoFile storage location job`: a run into the one file at a location
* `RunsAll before runs after`: runs that succeed one after the other
* `Job.Adds storage job report texts`: what a run reports and puts into its file

## Main results

* `EmitsAll.appends`: units that are emitted one after the other
* `Job.exists_adds`: a run that succeeds
* `appends_of_runsAll`: runs that succeed one after the other
-/

namespace Stencil

/-- What a run behind the loading is made from. -/
structure Job where
  options : Options
  language : Language
  /-- The text of the declaration. -/
  text : String
  /-- How templates are rendered during the run. -/
  engine : Template.Engine := Template.render

variable {web : Address.Url → Option Credentials → Except String String}
  {engine : Template.Engine} {o : Options} {extension : String} {location : Location}
  {before middle after : Storage}

/-! ## Units -/

/-- A unit is rendered as a text with the template that stands in a storage. -/
def Prints (engine : Template.Engine) (storage : Storage) (o : Options) (u : RenderUnit)
    (text : String) : Prop :=
  ∃ template : String,
    storage.get? (storage.destination (u.templatePath o)) = some (.file template.toUTF8) ∧
      engine template u.view = .ok text

/-- What is rendered is so with the template that stands there. -/
theorem Renders.prints {u : RenderUnit} {text : String}
    (h : Renders (Storage.environment web engine) o before u text) :
    Prints engine before o u text := by
  obtain ⟨template, hread, hrender⟩ := h
  exact ⟨template, (Storage.holds_of_readText hread).get?_eq, hrender⟩

/-- Texts that are put elsewhere leave the template as it is. -/
theorem Prints.of_appends {folders texts : List String}
    (happends : Storage.Appends location folders before texts after) {u : RenderUnit}
    {text : String} (hne : before.destination (u.templatePath o) ≠ location)
    (h : Prints engine after o u text) : Prints engine before o u text := by
  obtain ⟨template, hfile, hrender⟩ := h
  rw [Storage.destination_congr happends.workingFolder] at hfile
  exact ⟨template, (happends.get?_eq_file_iff hne _).mp hfile, hrender⟩

section SingleFile

variable {path : String} (hmode : o.singleFile.map (Path.join o.outputFolder) = some path)
include hmode

theorem target_of_singleFile (u : RenderUnit) : u.target o extension = path := by
  obtain ⟨single, hsingle, rfl⟩ := Option.map_eq_some_iff.mp hmode
  rw [RenderUnit.target, Emitter.target, Emitter.ofOptions, hsingle]

/-- **A unit** is put behind what the file holds. -/
theorem Emits.appends {u : RenderUnit} {text : String}
    (h : Emits (Storage.environment web engine) o extension before u text after) :
    Storage.Appends (before.destination path) [o.outputFolder] before [text] after := by
  obtain @⟨made, -, hfolders, hsaved⟩ := h
  have hgains := Storage.gainsFolders_makeFolders before o.outputFolder
  obtain rfl : (before.makeFolders o.outputFolder).1 = made := (Prod.mk.inj hfolders).2
  have hsome : o.singleFile.isSome = true := by
    obtain ⟨single, hsingle, -⟩ := Option.map_eq_some_iff.mp hmode
    rw [hsingle]
    rfl
  rw [save, if_pos hsome, target_of_singleFile hmode] at hsaved
  exact .of_appendFile hgains (@Storage.change_of_update_ok (·.appendFile path text) _ _ hsaved)

/-- **Units that are emitted** one after the other are put behind what the file holds, each rendered
with the template that stood there at first. -/
theorem EmitsAll.appends {emitted : List (RenderUnit × String)}
    (hne : ∀ u : RenderUnit, before.destination (u.templatePath o) ≠ before.destination path)
    (h : EmitsAll (Storage.environment web engine) o extension before emitted after) :
    Storage.Appends (before.destination path) [o.outputFolder] before (emitted.map (·.2)) after ∧
      ∀ e ∈ emitted, Prints engine before o e.1 e.2 := by
  -- Induction on what is emitted: the others start from what the first one leaves.
  induction h with
  | nil storage => exact ⟨.refl _ _ storage, nofun⟩
  | @cons before middle after u text emitted first others ih =>
    have hfirst := first.appends hmode
    have hplaces : ∀ path : String, middle.destination path = before.destination path :=
      Storage.destination_congr hfirst.workingFolder
    simp only [hplaces] at ih
    obtain ⟨hothers, hprints⟩ := ih hne
    refine ⟨hfirst.trans hothers, fun e he => ?_⟩
    rcases List.mem_cons.mp he with rfl | he
    · obtain ⟨rendered, -, -⟩ := first
      exact rendered.prints
    · exact (hprints e he).of_appends hfirst (hne e.1)

end SingleFile

/-! ## Runs -/

namespace Job

/-- The path of the one file for everything, if there is one. -/
def target? (job : Job) : Option String :=
  job.options.singleFile.map (Path.join job.options.outputFolder)

/-- A run into the one file at a location, which is not that of a template file of the run. -/
structure IntoFile (storage : Storage) (location : Location) (job : Job) : Prop where
  target : ∃ path, job.target? = some path ∧ storage.destination path = location
  template_ne : ∀ role,
    storage.destination ((Renderer.ofOptions job.options).path role) ≠ location

theorem IntoFile.congr {job : Job} (hfolder : after.workingFolder = before.workingFolder)
    (h : job.IntoFile before location) : job.IntoFile after location := by
  obtain ⟨⟨path, hpath, htarget⟩, hne⟩ := h
  refine ⟨⟨path, hpath, ?_⟩, fun role => ?_⟩
  · rw [Storage.destination_congr hfolder, htarget]
  · rw [Storage.destination_congr hfolder]
    exact hne role

/-- What a run reports, and the texts that it puts into its file: those of its units, of each model
in the order of the declaration and behind them of all operations, rendered with the templates that
stand in a storage. The path of the file is reported for each of them. -/
def Adds (storage : Storage) (job : Job) (report : Report) (texts : List String) : Prop :=
  ∃ document, Document.parse job.text = .ok document ∧
    List.Forall₂ (Prints job.engine storage job.options)
      (document.units job.options job.language) texts ∧
    ∃ path, job.target? = some path ∧
      report.files = List.replicate (document.declaration.models.entries.length + 1) path

/-- **A run into one file** that succeeds. -/
theorem exists_adds {job : Job} {report : Report} (hinto : job.IntoFile before location)
    (h : outcome (generateFromText (Storage.environment web job.engine) job.options job.language
      job.text) before = (.ok report, after)) :
    ∃ texts, texts ≠ [] ∧ job.Adds before report texts ∧
      Storage.Appends location [job.options.outputFolder] before texts after := by
  obtain ⟨⟨path, hmode, rfl⟩, hne⟩ := hinto
  obtain ⟨document, emitted, hparsed, hunits, hall, rfl⟩ :=
    exists_emitsAll_of_outcome (Storage.careful_environment web job.engine) h
  obtain ⟨happends, hprints⟩ := hall.appends hmode fun u => hne u.role
  have hlength : emitted.length = document.declaration.models.entries.length + 1 := by
    rw [← List.length_map (·.1), hunits, Document.length_units]
  refine ⟨emitted.map (·.2), ?_, ⟨document, hparsed, ?_, path, hmode, ?_⟩, happends⟩
  · intro hnil
    rw [List.map_eq_nil_iff.mp hnil] at hlength
    cases hlength
  · rw [← hunits, List.forall₂_map_left_iff, List.forall₂_map_right_iff, List.forall₂_same]
    exact hprints
  · rw [← hlength]
    refine List.eq_replicate_iff.mpr ⟨List.length_map _, fun file hfile => ?_⟩
    obtain ⟨e, -, rfl⟩ := List.mem_map.mp hfile
    exact target_of_singleFile hmode e.1

/-- What a run adds is the same for a storage with the same templates. -/
theorem Adds.of_appends {job : Job} {report : Report} {folders texts added : List String}
    (happends : Storage.Appends location folders before texts middle)
    (hinto : job.IntoFile before location) (h : job.Adds middle report added) :
    job.Adds before report added := by
  obtain ⟨document, hparsed, hprints, hreport⟩ := h
  refine ⟨document, hparsed, hprints.imp fun u text hprint => ?_, hreport⟩
  exact hprint.of_appends happends (hinto.template_ne u.role)

end Job

/-- Runs that succeed one after the other, each with its report. -/
inductive RunsAll (web : Address.Url → Option Credentials → Except String String) :
    Storage → List (Job × Report) → Storage → Prop
  | nil (storage : Storage) : RunsAll web storage [] storage
  | cons {before middle after : Storage} {job : Job} {report : Report}
      {runs : List (Job × Report)}
      (first : outcome
        (generateFromText (Storage.environment web job.engine) job.options job.language job.text)
          before = (.ok report, middle))
      (others : RunsAll web middle runs after) : RunsAll web before ((job, report) :: runs) after

theorem RunsAll.exists_adds {runs : List (Job × Report)}
    (hinto : ∀ run ∈ runs, run.1.IntoFile before location) (h : RunsAll web before runs after) :
    ∃ added : List (List String), (∀ texts ∈ added, texts ≠ []) ∧
      List.Forall₂ (fun run texts => run.1.Adds before run.2 texts) runs added ∧
      Storage.Appends location (runs.map (·.1.options.outputFolder)) before added.flatten
        after := by
  -- Induction on the runs: the others find the templates that the first one has found.
  induction h with
  | nil storage => exact ⟨[], nofun, .nil, .refl _ _ storage⟩
  | @cons before middle after job report runs first others ih =>
    obtain ⟨hfirst, hothers⟩ := List.forall_mem_cons.mp hinto
    obtain ⟨texts, hne, hadds, happends⟩ := Job.exists_adds hfirst first
    obtain ⟨added, hnonempty, hrest, hmore⟩ :=
      ih fun run hrun => (hothers run hrun).congr happends.workingFolder
    refine ⟨texts :: added, List.forall_mem_cons.mpr ⟨hne, hnonempty⟩, ?_, ?_⟩
    · refine .cons hadds (((List.forall₂_and_left _ _).mpr ⟨hothers, hrest⟩).imp ?_)
      rintro run texts ⟨hrun, hadds⟩
      exact hadds.of_appends happends hrun
    · rw [List.flatten_cons]
      refine (happends.mono ?_).trans (hmore.mono ?_)
      · exact List.cons_subset.mpr ⟨List.mem_cons_self, List.nil_subset _⟩
      · exact List.subset_cons_self _ _

/-- **Runs into one file**, one after the other: the file holds in the end what it held at first and
behind that what each of the runs adds, each with one text for each model and one for all
operations. No other file is made or changed; what else is new are folders on the way to those of
the runs. -/
theorem appends_of_runsAll {runs : List (Job × Report)}
    (hinto : ∀ run ∈ runs, run.1.IntoFile before location) (hruns : RunsAll web before runs after) :
    ∃ added : List (List String),
      List.Forall₂ (fun run texts => run.1.Adds before run.2 texts) runs added ∧
      (runs ≠ [] → after.get? location = some (.file
        (Storage.contentOf (before.get? location) ++ (String.join added.flatten).toUTF8))) ∧
      (runs = [] → after.get? location = before.get? location) ∧
      ∀ other, other ≠ location → after.get? other = before.get? other ∨
        before.get? other = none ∧ after.get? other = some .folder ∧
          ∃ run ∈ runs, before.OnWay run.1.options.outputFolder other := by
  obtain ⟨added, hnonempty, hadds, happends⟩ := hruns.exists_adds hinto
  refine ⟨added, hadds, ?_, ?_, fun other hother => ?_⟩
  · intro hsome
    rw [happends.get?_eq]
    apply Storage.foldl_put
    -- The first run adds a text at least.
    cases hadds with
    | nil => exact absurd rfl hsome
    | @cons run texts runs added hfirst hrest =>
      have htexts := hnonempty texts List.mem_cons_self
      rw [List.flatten_cons]
      exact List.append_ne_nil_of_left_ne_nil htexts _
  · rintro rfl
    cases hadds
    exact happends.get?_eq
  · refine (happends.get?_ne other hother).imp_right ?_
    rintro ⟨hnone, hnew, folder, hfolder, hway⟩
    obtain ⟨run, hrun, rfl⟩ := List.mem_map.mp hfolder
    exact ⟨hnone, hnew, run, hrun, hway⟩

/-- A run is asked to put everything into one file beside the template files. -/
def petsTogether : Options :=
  { petsOptions with outputFolder := "Templates", singleFileName := some "All.txt" }

/-- A storage in which the one file holds something. -/
def petsBegun : Storage := petsStorage (("All.txt", "//") :: petsTemplates)

/-- A run that is asked for this. -/
def petsJob (language : Language) : Job := { options := petsTogether, language, text := petsText }

/-- The report of a run with one class, which names the file for it and for the operations. -/
def petsReport : Report := ⟨["Templates/All.txt", "Templates/All.txt"], 1, 1, 0⟩

/-- Two runs, in two languages, into a file that holds something at first. -/
theorem appends_of_runsAll_pets :
    ∃ runs after, runs.map (·.2.files) =
        [["Templates/All.txt", "Templates/All.txt"], ["Templates/All.txt", "Templates/All.txt"]] ∧
      (∀ run ∈ runs, run.1.IntoFile petsBegun ["Templates", "All.txt"]) ∧
      RunsAll noWeb petsBegun runs after ∧
      after.readText "Templates/All.txt" = .ok "//modelopsmodelops" ∧
      ∃ added : List (List String),
        List.Forall₂ (fun run texts => run.1.Adds petsBegun run.2 texts) runs added ∧
        after.get? ["Templates", "All.txt"] =
          some (.file ("//".toUTF8 ++ (String.join added.flatten).toUTF8)) := by
  have hfirst : (outcome (generateFromText (Storage.environment noWeb) petsTogether
      CSharp.language petsText) petsBegun).1 = .ok petsReport := by
    decide +kernel
  have hsecond : (outcome (generateFromText (Storage.environment noWeb) petsTogether
      TypeScript.language petsText) (outcome (generateFromText (Storage.environment noWeb)
        petsTogether CSharp.language petsText) petsBegun).2).1 = .ok petsReport ∧
      (outcome (generateFromText (Storage.environment noWeb) petsTogether
        TypeScript.language petsText) (outcome (generateFromText (Storage.environment noWeb)
          petsTogether CSharp.language petsText) petsBegun).2).2.readText "Templates/All.txt" =
        .ok "//modelopsmodelops" := by
    decide +kernel
  have hheld : Storage.contentOf (petsBegun.get? ["Templates", "All.txt"]) = "//".toUTF8 := by
    decide +kernel
  have hinto : ∀ language, (petsJob language).IntoFile petsBegun ["Templates", "All.txt"] := by
    have hpath : petsTogether.singleFile.map (Path.join petsTogether.outputFolder) =
        some "Templates/All.txt" := by decide +kernel
    have hrole : ∀ role, petsBegun.destination ((Renderer.ofOptions petsTogether).path role) ≠
        ["Templates", "All.txt"] := by
      intro role
      cases role <;> decide +kernel
    exact fun language => ⟨⟨"Templates/All.txt", hpath, by decide +kernel⟩, hrole⟩
  obtain ⟨middle, hmiddle⟩ := exists_outcome_eq hfirst
  rw [hmiddle] at hsecond
  obtain ⟨after, hafter⟩ := exists_outcome_eq hsecond.1
  rw [hafter] at hsecond
  have hruns : RunsAll noWeb petsBegun [(petsJob CSharp.language, petsReport),
      (petsJob TypeScript.language, petsReport)] after :=
    .cons hmiddle (.cons hafter (.nil after))
  have hall : ∀ run ∈ [(petsJob CSharp.language, petsReport),
      (petsJob TypeScript.language, petsReport)],
      run.1.IntoFile petsBegun ["Templates", "All.txt"] :=
    List.forall_mem_cons.mpr ⟨hinto CSharp.language,
      List.forall_mem_singleton.mpr (hinto TypeScript.language)⟩
  obtain ⟨added, hadds, hfile, -, -⟩ := appends_of_runsAll hall hruns
  rw [hheld] at hfile
  exact ⟨_, after, rfl, hall, hruns, hsecond.2, added, hadds, hfile (List.cons_ne_nil _ _)⟩

end Stencil
