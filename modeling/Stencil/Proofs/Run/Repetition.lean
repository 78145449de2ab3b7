import Stencil.Proofs.Run.Files
import Stencil.Proofs.Storage.Rewriting

/-!
# Runs that are repeated

Without one file for everything, a run that succeeds leaves a storage in which the same run
succeeds again and changes nothing. No template file is among the files for units, as they have
other extensions, so all units are rendered as before; the output folder is there, and so are all
files, which are written again in the same order, also where one replaces another one.

Both runs render templates in the same way: what a template is rendered as depends on the template
and its view only. Where a template asks for a variable that is set to something else in the
meantime, the second run writes another text, and so it does with the time of day and with chance.

## Main definitions

* `Settled o extension emitted storage`: all is there for units to be emitted again

## Main results

* `destination_templatePath_ne`: template files are not among the files for units
* `EmitsAll.settled`: what is emitted can be emitted again
* `Settled.emitsAll`: and then it is
* `outcome_generateFromText_again`: runs that are repeated
* `secondRun_changes`: a template that asks for a variable
-/

namespace Stencil

variable {o : Options} {extension : String} {before after storage : Storage}

/-! ## Template files and files for units -/

/-- Names that end in different letters lead to different places, whatever they are behind. -/
theorem Storage.destination_ne_of_getLast? (storage : Storage) (common front : String)
    {left right : String} (hleft : '/' ∉ left.toList ∧ ∃ c ∈ left.toList, c ≠ '.')
    (hright : '/' ∉ right.toList ∧ ∃ c ∈ right.toList, c ≠ '.')
    (hne : left.toList.getLast? ≠ right.toList.getLast?) :
    storage.destination (common ++ left) ≠ storage.destination (front ++ right) := by
  -- What the names are behind may end in the middle of a name, of which they are the end then.
  have hends : ∀ (last : List Char) {name : List Char}, (∃ c ∈ name, c ≠ '.') →
      (last ++ name).getLast? = name.getLast? := by
    rintro last name ⟨c, hc, -⟩
    rw [List.getLast?_append, List.getLast?_eq_some_getLast (List.ne_nil_of_mem hc), Option.some_or]
  obtain ⟨parent, last, hplace⟩ := exists_destination_append storage common
  obtain ⟨parent', last', hplace'⟩ := exists_destination_append storage front
  rw [hplace left hleft.1 hleft.2, hplace' right hright.1 hright.2]
  intro heq
  have hnames := String.ofList_injective (List.singleton_inj.mp (List.append_inj' heq rfl).2)
  have hlast := congrArg List.getLast? hnames
  rw [hends last hleft.2, hends last' hright.2] at hlast
  exact hne hlast

/-- A template file is at another place than a file for a unit, whatever they are called. -/
theorem destination_templatePath_ne (hmode : o.singleFile = none)
    (hextension : extension = "cs" ∨ extension = "ts") (storage : Storage) (u : RenderUnit)
    {v : RenderUnit} (hv : '/' ∉ v.name.toList) :
    storage.destination (u.templatePath o) ≠ storage.destination (v.target o extension) := by
  have hrole : '/' ∉ (u.role.name ++ "Template.txt").toList ∧
      ∃ c ∈ (u.role.name ++ "Template.txt").toList, c ≠ '.' := by
    cases u.role <;> exact ⟨by decide, 't', by decide, by decide⟩
  obtain ⟨common, hcommon⟩ := Path.exists_join_append o.templateFolder o.templatePrefix
  have hpath : u.templatePath o = common ++ (u.role.name ++ "Template.txt") := by
    rw [← hcommon _ fun h => hrole.1 (List.mem_of_mem_head? h), ← String.append_assoc]
    rfl
  obtain ⟨front, hfront⟩ := exists_target_eq hmode extension
  rw [hpath, hfront v hv]
  refine storage.destination_ne_of_getLast? common front hrole (notMem_file hextension hv) ?_
  -- The one ends in `.txt`, the other one in `.cs` or `.ts`.
  rcases hextension with rfl | rfl <;> cases u.role <;> simp [TemplateRole.name]

/-! ## Units that can be emitted again -/

section Settled

variable (web : Address.Url → Option Credentials → Except String String)
  (engine : Template.Engine) (o : Options) (extension : String)

/-- All is there for units to be emitted with texts: they are rendered as the texts, their files
are there, and so is the output folder. -/
structure Settled (emitted : List (RenderUnit × String)) (storage : Storage) : Prop where
  rendered : ∀ e ∈ emitted, Renders (Storage.environment web engine) o storage e.1 e.2
  held : ∀ e ∈ emitted, ∃ text, storage.Holds (e.1.target o extension) text
  folder : storage.HasFolder o.outputFolder

/-- What is set when units are emitted with texts. -/
def unitWrites (storage : Storage) (emitted : List (RenderUnit × String)) :
    List (Location × Entry) :=
  emitted.map fun e => (storage.destination (e.1.target o extension), .file e.2.toUTF8)

variable {web engine o extension} {emitted : List (RenderUnit × String)} {u : RenderUnit}
  {text : String}

theorem Renders.of_gainsFolders {folder : String} (hgains : before.GainsFolders folder after)
    (h : Renders (Storage.environment web engine) o before u text) :
    Renders (Storage.environment web engine) o after u text := by
  obtain ⟨template, hread, hrender⟩ := h
  exact ⟨template, ((Storage.holds_of_readText hread).of_gainsFolders hgains).readText, hrender⟩

section Modes

variable (hmode : o.singleFile = none)
include hmode

/-- A unit is emitted where it is rendered, its folder is there and its file can be written. -/
theorem emits_of_writeFile (hrendered : Renders (Storage.environment web engine) o before u text)
    (hfolder : before.HasFolder o.outputFolder)
    (hwrite : before.writeFile (u.target o extension) text = .ok after) :
    Emits (Storage.environment web engine) o extension before u text after := by
  have hmade : (Storage.environment web engine).makeFolders o.outputFolder before =
      (.ok (), before) := by
    simp only [Storage.environment, Storage.makeFolders_of_hasFolder hfolder]
  have hsaved : save (Storage.environment web engine) o extension u text before =
      (.ok (), after) := by
    simp only [save, hmode, Option.isSome_none, Bool.false_eq_true, if_false,
      Storage.environment, Storage.update, hwrite]
  exact ⟨hrendered, hmade, hsaved⟩

/-- A unit that is emitted is also emitted once its folder has been made. -/
theorem Emits.exists_made
    (h : Emits (Storage.environment web engine) o extension before u text after) :
    ∃ made, made.HasFolder o.outputFolder ∧
      (before.HasFolder o.outputFolder → made = before) ∧
      made.writeFile (u.target o extension) text = .ok after ∧
      Emits (Storage.environment web engine) o extension made u text after := by
  obtain @⟨made, hrendered, hfolders, hsaved⟩ := h
  have hmakes : before.makeFolders o.outputFolder = (made, .ok ()) := by
    obtain ⟨hresult, hmade⟩ := Prod.mk.inj hfolders
    exact Prod.ext hmade hresult
  have hfolder := Storage.hasFolder_of_makeFolders hmakes
  have hgains := Storage.gainsFolders_makeFolders before o.outputFolder
  rw [hmakes] at hgains
  rw [save, hmode] at hsaved
  have hwrite := @Storage.change_of_update_ok (·.writeFile (u.target o extension) text) _ _ hsaved
  refine ⟨made, hfolder, fun hthere => ?_, hwrite,
    emits_of_writeFile hmode (hrendered.of_gainsFolders hgains) hfolder hwrite⟩
  exact congrArg (·.1) (hmakes.symm.trans (Storage.makeFolders_of_hasFolder hthere))

variable (hextension : extension = "cs" ∨ extension = "ts")
include hextension

theorem Renders.of_writeFile (hu : '/' ∉ u.name.toList)
    (hwrite : before.writeFile (u.target o extension) text = .ok after) {v : RenderUnit}
    {rendered : String} (h : Renders (Storage.environment web engine) o before v rendered) :
    Renders (Storage.environment web engine) o after v rendered := by
  obtain ⟨template, hread, hrender⟩ := h
  have hheld := Storage.holds_of_readText hread
  have hne := destination_templatePath_ne hmode hextension before v hu
  exact ⟨template, (hheld.of_writeFile hwrite hne).readText, hrender⟩

/-- All is still there when the file of a unit is written. -/
theorem Settled.of_writeFile (h : Settled web engine o extension emitted before)
    (hu : '/' ∉ u.name.toList)
    (hwrite : before.writeFile (u.target o extension) text = .ok after) :
    Settled web engine o extension emitted after := by
  obtain ⟨-, -, hplain, hafter⟩ := Storage.eq_set_of_writeFile hwrite
  refine ⟨fun e he => ?_, fun e he => ?_, ?_⟩
  · exact (h.rendered e he).of_writeFile hmode hextension hu hwrite
  · obtain ⟨held, hheld⟩ := h.held e he
    exact hheld.exists_of_writeFile hwrite
  · rw [hafter]
    exact (Storage.KeepsFolders.set hplain _).hasFolder h.folder

/-- **Units are emitted again** where all is there for it. -/
theorem Settled.emitsAll (h : Settled web engine o extension emitted storage)
    (hslash : ∀ e ∈ emitted, '/' ∉ e.1.name.toList) :
    EmitsAll (Storage.environment web engine) o extension storage emitted
      (storage.setAll (unitWrites o extension storage emitted)) := by
  induction emitted generalizing storage with
  | nil => exact .nil storage
  | cons e emitted ih =>
    obtain ⟨he, hrest⟩ := List.forall_mem_cons.mp hslash
    obtain ⟨held, hheld⟩ := h.held e List.mem_cons_self
    have hwrite := hheld.writeFile e.2
    have hothers : Settled web engine o extension emitted storage :=
      ⟨fun d hd => h.rendered d (List.mem_cons_of_mem e hd),
        fun d hd => h.held d (List.mem_cons_of_mem e hd), h.folder⟩
    refine .cons (emits_of_writeFile hmode (h.rendered e List.mem_cons_self) h.folder hwrite) ?_
    exact ih (hothers.of_writeFile hmode hextension he hwrite) hrest

/-- **What is emitted can be emitted again**, and it has been set one after the other. -/
theorem EmitsAll.settled {done : List (RenderUnit × String)}
    (h : EmitsAll (Storage.environment web engine) o extension before emitted after)
    (hslash : ∀ e ∈ emitted, '/' ∉ e.1.name.toList)
    (hdone : Settled web engine o extension done before) :
    Settled web engine o extension (done ++ emitted) after ∧
      after = before.setAll (unitWrites o extension before emitted) := by
  -- Induction on what is emitted; what was emitted before can be emitted again all the time.
  induction h generalizing done with
  | nil =>
    rw [List.append_nil]
    exact ⟨hdone, rfl⟩
  | @cons before middle after u text emitted first others ih =>
    obtain ⟨hu, hrest⟩ := List.forall_mem_cons.mp hslash
    obtain ⟨made, -, hsame, hwrite, ⟨hrendered, -, -⟩⟩ := first.exists_made hmode
    obtain rfl := hsame hdone.folder
    have hkept := hdone.of_writeFile hmode hextension hu hwrite
    have hmore : Settled web engine o extension (done ++ [(u, text)]) middle := by
      refine ⟨fun e he => ?_, fun e he => ?_, hkept.folder⟩
      · rcases List.mem_append.mp he with he | he
        · exact hkept.rendered e he
        · obtain rfl := List.mem_singleton.mp he
          exact hrendered.of_writeFile hmode hextension hu hwrite
      · rcases List.mem_append.mp he with he | he
        · exact hkept.held e he
        · obtain rfl := List.mem_singleton.mp he
          exact ⟨text, Storage.holds_of_writeFile hwrite⟩
    obtain ⟨hsettled, hafter⟩ := ih hrest hmore
    rw [List.append_assoc] at hsettled
    obtain ⟨-, -, -, rfl⟩ := Storage.eq_set_of_writeFile hwrite
    exact ⟨hsettled, hafter⟩

/-- What is emitted is emitted again, and this changes nothing. -/
theorem EmitsAll.again
    (h : EmitsAll (Storage.environment web engine) o extension before emitted after)
    (hslash : ∀ e ∈ emitted, '/' ∉ e.1.name.toList) :
    EmitsAll (Storage.environment web engine) o extension after emitted after := by
  cases h with
  | nil => exact .nil _
  | @cons _ middle _ u text emitted first others =>
    -- The folder may as well be there from the start.
    obtain ⟨made, hfolder, -, -, hfirst⟩ := first.exists_made hmode
    have hall : EmitsAll (Storage.environment web engine) o extension made
        ((u, text) :: emitted) after := .cons hfirst others
    have hnone : Settled web engine o extension [] made := ⟨nofun, nofun, hfolder⟩
    obtain ⟨hsettled, hafter⟩ := hall.settled hmode hextension hslash hnone
    have hagain := hsettled.emitsAll hmode hextension hslash
    have hwrites : unitWrites o extension after ((u, text) :: emitted) =
        unitWrites o extension made ((u, text) :: emitted) := by
      rw [hafter]
      simp only [unitWrites, Storage.destination_setAll]
    have hsame : after.setAll (unitWrites o extension after ((u, text) :: emitted)) = after := by
      rw [hwrites, hafter, Storage.setAll_setAll]
    rwa [List.nil_append, hsame] at hagain

end Modes

end Settled

/-! ## Runs -/

/-- **Runs that are repeated**: a run that succeeds, succeeds again on the storage that it leaves,
with the same report, and leaves this storage as it is, if both runs render templates in the same
way. -/
theorem outcome_generateFromText_again {key : String} {language : Language}
    {web : Address.Url → Option Credentials → Except String String} {engine : Template.Engine}
    {text : String} {report : Report} (hkey : Registry.builtin.resolve key = .ok language)
    (hmode : o.singleFile = none)
    (hrun : outcome (generateFromText (Storage.environment web engine) o language text) before =
      (.ok report, after)) :
    outcome (generateFromText (Storage.environment web engine) o language text) after =
      (.ok report, after) := by
  have hcareful := Storage.careful_environment web engine
  have hnames := Registry.namesFiles_of_resolve hkey
  have hextension := Registry.extension_of_resolve hkey
  -- The same units are emitted with the same texts, so that the report is the same.
  obtain ⟨document, emitted, hparsed, hunits, hall, rfl⟩ :=
    exists_emitsAll_of_outcome hcareful hrun
  have hslash : ∀ e ∈ emitted, '/' ∉ e.1.name.toList := fun e he =>
    slash_notMem_name hnames (hunits ▸ List.mem_map_of_mem he)
  have hagain := hall.again hmode hextension hslash
  rw [outcome_generateFromText_of_parse hparsed, ← hunits,
    outcome_bind_of_ok (outcome_emitUnits_of_emitsAll hcareful hagain), outcome_pure]

/-! ## A template that asks for a variable -/

/-- Template files of which that for operations asks for a variable. -/
def variableTemplates : List (String × String) :=
  [("ModelTemplate.txt", "model"),
    ("ActionTemplate.txt", "\x7b\x7b get_env(name=\"SWAGGEN_LOG\") \x7d\x7d")]

/-- What runs can do where the variable has a value. -/
def variableEnvironment (value : String) : Environment (StateM Storage) :=
  Storage.environment noWeb <| Template.renderWith <| .ofVariables fun name =>
    if name = "SWAGGEN_LOG" then some value else none

/-- A run in which the operations replace the file of the class does the same again, as long as the
variable has the same value. -/
theorem outcome_generateFromText_again_sameNameText :
    Registry.builtin.resolve "c#" = .ok CSharp.language ∧ petsOptions.singleFile = none ∧
      ∃ after, outcome (generateFromText (variableEnvironment "off") petsOptions CSharp.language
          sameNameText) (petsStorage variableTemplates) =
            (.ok ⟨["out/pets.cs", "out/pets.cs"], 1, 1, 0⟩, after) ∧
        after.readText "out/pets.cs" = .ok "off" ∧
        outcome (generateFromText (variableEnvironment "off") petsOptions CSharp.language
          sameNameText) after = (.ok ⟨["out/pets.cs", "out/pets.cs"], 1, 1, 0⟩, after) := by
  have hfacts : (outcome (generateFromText (variableEnvironment "off") petsOptions CSharp.language
      sameNameText) (petsStorage variableTemplates)).1 =
        .ok ⟨["out/pets.cs", "out/pets.cs"], 1, 1, 0⟩ ∧
      (outcome (generateFromText (variableEnvironment "off") petsOptions CSharp.language
        sameNameText) (petsStorage variableTemplates)).2.readText "out/pets.cs" = .ok "off" := by
    decide +kernel
  obtain ⟨hresult, hfile⟩ := hfacts
  obtain ⟨after, hrun⟩ := exists_outcome_eq hresult
  rw [hrun] at hfile
  exact ⟨rfl, rfl, after, hrun, hfile,
    @outcome_generateFromText_again petsOptions _ _ "c#" _ _ _ _ _ rfl rfl hrun⟩

/-- **The second run** writes another text where the variable has another value by then. -/
theorem secondRun_changes :
    Registry.builtin.resolve "c#" = .ok CSharp.language ∧ petsOptions.singleFile = none ∧
      ∃ report after last,
        outcome (generateFromText (variableEnvironment "off") petsOptions CSharp.language petsText)
          (petsStorage variableTemplates) = (.ok report, after) ∧
        outcome (generateFromText (variableEnvironment "error") petsOptions CSharp.language
          petsText) after = (.ok report, last) ∧
        after.readText "out/pets.cs" = .ok "off" ∧ last.readText "out/pets.cs" = .ok "error" := by
  have hfirst : (outcome (generateFromText (variableEnvironment "off") petsOptions
      CSharp.language petsText) (petsStorage variableTemplates)).1 =
        .ok ⟨["out/Pet.cs", "out/pets.cs"], 1, 1, 0⟩ ∧
      (outcome (generateFromText (variableEnvironment "off") petsOptions CSharp.language petsText)
        (petsStorage variableTemplates)).2.readText "out/pets.cs" = .ok "off" := by
    decide +kernel
  have hsecond : (outcome (generateFromText (variableEnvironment "error") petsOptions
      CSharp.language petsText) (outcome (generateFromText (variableEnvironment "off") petsOptions
        CSharp.language petsText) (petsStorage variableTemplates)).2).1 =
        .ok ⟨["out/Pet.cs", "out/pets.cs"], 1, 1, 0⟩ ∧
      (outcome (generateFromText (variableEnvironment "error") petsOptions CSharp.language petsText)
        (outcome (generateFromText (variableEnvironment "off") petsOptions CSharp.language petsText)
          (petsStorage variableTemplates)).2).2.readText "out/pets.cs" = .ok "error" := by
    decide +kernel
  obtain ⟨after, hafter⟩ := exists_outcome_eq hfirst.1
  rw [hafter] at hfirst hsecond
  obtain ⟨last, hlast⟩ := exists_outcome_eq hsecond.1
  rw [hlast] at hsecond
  exact ⟨rfl, rfl, _, after, last, hafter, hlast, hfirst.2, hsecond.2⟩

end Stencil
