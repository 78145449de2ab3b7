import Stencil.Proofs.Client.LegalNames
import Stencil.Proofs.Run.Files

/-!
# The output folder

Without one file for everything, a run makes the output folder and writes files in it. The name
of each file is the prefix, a stem, a dot and the extension. The stem of a class is an identifier,
whatever the model is called, and that of the operations is a piece of the locator of the
declaration. So a prefix without a slash makes every name one component of a path, and nothing
outside the output folder is written.

## Main definitions

* `Options.NamesUnit o extension file`: what files for units are called
* `RenderUnit.HasFileInFolder`: a unit has its file in the output folder
* `Environment.SameInFolder o extension left right`: nothing differs but what is done elsewhere
* `StaysInside o extension before after`: what changes is in the output folder or on the way to it

## Main results

* `Converter.fileName_legal`: what stems of classes are
* `EmitsAll.staysInside`: units change nothing elsewhere
* `generate_staysInside`: neither do runs
-/

namespace Stencil

open Naming

/-! ## Stems -/

/-- A legal name without an `@` in front holds something and no zero. -/
theorem CSharp.IsLegal.nonempty_bare {name : String} (h : CSharp.IsLegal name) :
    bare name ≠ "" ∧ '\x00' ∉ (bare name).toList := by
  obtain ⟨first, rest, hname, -⟩ := h.starts
  rw [bare, ← String.toList_inj.ne, String.toList_ofList]
  constructor
  · simp [hname]
  · exact fun hzero => absurd (h.chars '\x00' hzero) (by decide)

theorem TypeScript.IsLegal.nonempty_bare {name : String} (h : TypeScript.IsLegal name) :
    bare name ≠ "" ∧ '\x00' ∉ (bare name).toList := by
  -- No legal name starts with a mark, so the name is bare.
  have hbare : bareChars name.toList = name.toList := by
    apply bareChars_of_forall_ne
    rintro c hc rfl
    exact absurd (h.chars '@' hc) (by decide)
  obtain ⟨first, rest, hname, -⟩ := h.starts
  rw [bare, hbare, String.ofList_toList, ← String.toList_inj.ne]
  constructor
  · simp [hname]
  · exact fun hzero => absurd (h.chars '\x00' hzero) (by decide)

/-- **Stems of classes**: the file of a class has a name that holds something and neither a slash
nor a zero, whatever the model is called. -/
theorem Converter.fileName_legal {key : String} {language : Language}
    (h : Registry.builtin.resolve key = .ok language) {declaration : Declaration}
    {m : Client.ModelDescriptor} (hm : m ∈ (ready language declaration).models) :
    m.fileName ≠ "" ∧ '/' ∉ m.fileName.toList ∧ '\x00' ∉ m.fileName.toList := by
  have hnames := Registry.namesFiles_of_resolve h
  have hbare : bare m.name ≠ "" ∧ '\x00' ∉ (bare m.name).toList := by
    obtain ⟨n, hn⟩ := exists_numbered_name hm
    rw [hn]
    rcases Registry.eq_of_resolve_builtin h with rfl | rfl
    · have hlegal := CSharp.isLegal_safeIdentifier m.declaredName.toList
      exact (hlegal.numbered n).nonempty_bare
    · have hlegal := TypeScript.isLegal_sanitize (capitalize m.declaredName.toList)
      exact (hlegal.numbered n).nonempty_bare
  rw [← fileName_eq_bare hnames hm] at hbare
  exact ⟨hbare.1, slash_notMem_fileName hnames hm, hbare.2⟩

/-! ## Files for units -/

/-- What a file for a unit is called: the prefix, a stem, a dot and the extension. A stem holds
something and no slash, and no zero unless it is the name in the locator of the declaration. -/
def Options.NamesUnit (o : Options) (extension file : String) : Prop :=
  ∃ stem, file = o.outputPrefix ++ stem ++ "." ++ extension ∧ stem ≠ "" ∧ '/' ∉ stem.toList ∧
    ('\x00' ∉ stem.toList ∨ stem = (Locator.parse o.input).baseName)

/-- A unit has its file in the output folder. -/
def RenderUnit.HasFileInFolder (u : RenderUnit) (o : Options) (extension : String) : Prop :=
  ∃ file, o.NamesUnit extension file ∧ u.target o extension = Path.join o.outputFolder file

section Names

variable {o : Options} {language : Language} {extension file : String}

/-- Without one file for all units, each has its file in the output folder. -/
theorem hasFileInFolder_of_mem (hkey : Registry.builtin.resolve o.converter = .ok language)
    (hmode : o.singleFile = none) {document : Document} {u : RenderUnit}
    (hu : u ∈ document.units o language) : u.HasFileInFolder o language.extension := by
  refine ⟨o.outputPrefix ++ u.name ++ "." ++ language.extension, ⟨u.name, rfl, ?_⟩, ?_⟩
  · rcases List.mem_append.mp hu with hu | hu
    -- a class
    · obtain ⟨m, hm, rfl⟩ := List.mem_map.mp hu
      obtain ⟨hne, hslash, hzero⟩ := Converter.fileName_legal hkey hm
      exact ⟨hne, hslash, Or.inl hzero⟩
    -- the operations
    · obtain rfl := List.mem_singleton.mp hu
      exact ⟨(Locator.parse o.input).baseName_ne_empty,
        (Locator.parse o.input).slash_notMem_baseName, Or.inr rfl⟩
  · rw [RenderUnit.target, Emitter.target, Emitter.ofOptions, hmode]

/-- A file for a unit is named by one component, which is no dots. -/
theorem Options.NamesUnit.isComponent (hnoSlash : '/' ∉ o.outputPrefix.toList)
    (hextension : extension = "cs" ∨ extension = "ts") (h : o.NamesUnit extension file) :
    '/' ∉ file.toList ∧ ∃ c ∈ file.toList, c ≠ '.' := by
  obtain ⟨stem, rfl, -, hslash, -⟩ := h
  obtain ⟨hstem, c, hc, hne⟩ := notMem_file hextension hslash
  rw [String.append_assoc, String.append_assoc, String.toList_append]
  refine ⟨?_, c, List.mem_append_right _ hc, hne⟩
  rw [List.mem_append]
  exact not_or.mpr ⟨hnoSlash, hstem⟩

theorem components_join_of_namesUnit (hnoSlash : '/' ∉ o.outputPrefix.toList)
    (hextension : extension = "cs" ∨ extension = "ts") (h : o.NamesUnit extension file) :
    Path.components (Path.join o.outputFolder file).toList =
      Path.components o.outputFolder.toList ++ [file.toList] := by
  obtain ⟨hslash, c, hc, hne⟩ := h.isComponent hnoSlash hextension
  -- Empty components and single dots would be left out of a path.
  have hempty : file ≠ "" := by
    rintro rfl
    simp at hc
  have hdot : file.toList ≠ ['.'] := by
    intro heq
    rw [heq, List.mem_singleton] at hc
    exact hne hc
  rw [Path.components, Path.components, Path.pieces_join o.outputFolder hslash hempty,
    List.filter_append]
  simp [hdot]

end Names

/-! ## What a run does outside -/

section Environments

variable {m : Type → Type} [Monad m] {o : Options} {language : Language} {extension : String}

/-- Two environments differ at most in what comes of putting texts behind files, of making other
folders than the output folder and of writing other files than those for units in it. -/
structure Environment.SameInFolder (o : Options) (extension : String)
    (left right : Environment m) : Prop where
  readText : left.readText = right.readText
  fetch : left.fetch = right.fetch
  render : left.render = right.render
  makeFolders : left.makeFolders o.outputFolder = right.makeFolders o.outputFolder
  writeFile : ∀ file, o.NamesUnit extension file →
    left.writeFile (Path.join o.outputFolder file) =
      right.writeFile (Path.join o.outputFolder file)

variable {left right : Environment m} (h : left.SameInFolder o extension right)
  (hmode : o.singleFile = none)
include h hmode

theorem emitUnit_congr {u : RenderUnit}
    (hu : u.HasFileInFolder o extension) :
    emitUnit left o extension u = emitUnit right o extension u := by
  obtain ⟨file, hnames, htarget⟩ := hu
  -- Templates are read, which is the same anywhere, and the text goes to the file of the unit.
  have hrender : (Renderer.ofOptions o).render left u.role u.view =
      (Renderer.ofOptions o).render right u.role u.view := by
    simp only [Renderer.render, h.readText, h.render]
  have hemit : ∀ text, (Emitter.ofOptions o).emit left text u.name extension =
      (Emitter.ofOptions o).emit right text u.name extension := by
    intro text
    have hpath : (Emitter.ofOptions o).target u.name extension =
        Path.join o.outputFolder file := htarget
    have hwrite := h.writeFile file hnames
    have hfolder := h.makeFolders
    simp only [Emitter.emit, hpath]
    simp only [Emitter.ofOptions, hmode, hfolder, hwrite, Option.isSome_none]
    rfl
  simp only [emitUnit, hrender, hemit]

theorem emitUnits_congr {units : List RenderUnit}
    (hunits : ∀ u ∈ units, u.HasFileInFolder o extension) :
    emitUnits left o extension units = emitUnits right o extension units := by
  induction units with
  | nil => rfl
  | cons u units ih =>
    obtain ⟨hfirst, hothers⟩ := List.forall_mem_cons.mp hunits
    simp only [emitUnits, emitUnit_congr h hmode hfirst, ih hothers]

omit h in
theorem generateFromText_congr (hkey : Registry.builtin.resolve o.converter = .ok language)
    (hsame : left.SameInFolder o language.extension right) (text : String) :
    generateFromText left o language text = generateFromText right o language text := by
  unfold generateFromText
  refine bind_congr fun document => ?_
  have hunits : emitUnits left o language.extension (document.units o language) =
      emitUnits right o language.extension (document.units o language) :=
    emitUnits_congr hsame hmode fun u hu => hasFileInFolder_of_mem hkey hmode hu
  exact congrArg (· >>= _) hunits

omit h in
theorem generate_congr [LawfulMonad m]
    (hkey : Registry.builtin.resolve o.converter = .ok language)
    (hsame : left.SameInFolder o language.extension right) :
    generate left .builtin o = generate right .builtin o := by
  have hload : loadDocument left o.input o.credentials =
      loadDocument right o.input o.credentials := by
    simp only [loadDocument, hsame.readText, hsame.fetch]
  have hresolved : (ExceptT.mk (pure (Registry.builtin.resolve o.converter)) :
      ExceptT Failure m Language) = pure language := by
    rw [hkey]
    rfl
  unfold generate
  rw [hresolved, pure_bind, pure_bind, hload]
  exact bind_congr fun text => generateFromText_congr hmode hkey hsame text

end Environments

/-! ## What a run leaves outside -/

/-- What has changed is a folder on the way to the output folder, which is new, or a file for a
unit in the output folder. -/
structure StaysInside (o : Options) (extension : String) (before after : Storage) : Prop where
  workingFolder : after.workingFolder = before.workingFolder
  get? : ∀ location, after.get? location = before.get? location ∨
    (before.get? location = none ∧ after.get? location = some .folder ∧
      before.OnWay o.outputFolder location) ∨
    ∃ file content, o.NamesUnit extension file ∧
      location = before.destination o.outputFolder ++ [file] ∧
      after.get? location = some (.file content)

section Storages

variable {o : Options} {extension : String} {before middle after : Storage}

namespace StaysInside

theorem of_gainsFolders (h : before.GainsFolders o.outputFolder after) :
    StaysInside o extension before after :=
  ⟨h.workingFolder, fun location => (h.get? location).imp_right Or.inl⟩

theorem refl (o : Options) (extension : String) (storage : Storage) :
    StaysInside o extension storage storage := .of_gainsFolders (.refl _ _)

theorem trans (hfirst : StaysInside o extension before middle)
    (hsecond : StaysInside o extension middle after) : StaysInside o extension before after := by
  refine ⟨hsecond.workingFolder.trans hfirst.workingFolder, fun location => ?_⟩
  rcases hsecond.get? location with hkept | ⟨hnone, hnew, hway⟩ | ⟨file, content, hfile⟩
  · rw [hkept]
    exact hfirst.get? location
  · -- A folder that is new in the second place was not there before the first.
    rcases hfirst.get? location with hkept | ⟨-, hfolder, -⟩ | ⟨-, content, -, -, hfile⟩
    · exact Or.inr (Or.inl ⟨hkept ▸ hnone, hnew, hway.of_workingFolder hfirst.workingFolder⟩)
    · cases hnone.symm.trans hfolder
    · cases hnone.symm.trans hfile
  · rw [Storage.destination_congr hfirst.workingFolder] at hfile
    exact Or.inr (Or.inr ⟨file, content, hfile⟩)

end StaysInside

variable {web : Address.Url → Option Credentials → Except String String}
  {engine : Template.Engine} (hmode : o.singleFile = none) (hnoSlash : '/' ∉ o.outputPrefix.toList)
  (hextension : extension = "cs" ∨ extension = "ts")
include hmode hnoSlash hextension

/-- A unit changes its file and makes folders on the way to it. -/
theorem Emits.staysInside {u : RenderUnit} {text : String}
    (h : Emits (Storage.environment web engine) o extension before u text after)
    (hu : u.HasFileInFolder o extension) :
    StaysInside o extension before after := by
  obtain ⟨file, hnames, htarget⟩ := hu
  obtain ⟨hslash, hletter⟩ := hnames.isComponent hnoSlash hextension
  obtain ⟨made, hgains, hwritten⟩ := h.exists_writeFile hmode
  refine .trans (.of_gainsFolders hgains) ?_
  obtain ⟨-, -, hplain, rfl⟩ := Storage.eq_set_of_writeFile hwritten
  refine ⟨rfl, fun location => ?_⟩
  rw [Storage.get?_set made (Storage.destination_ne_nil hplain), htarget,
    Storage.destination_join made o.outputFolder hslash hletter]
  split
  · rename_i hlocation
    exact Or.inr (Or.inr ⟨file, _, hnames, hlocation, rfl⟩)
  · exact Or.inl rfl

/-- **Units** change nothing but files in the output folder and folders on the way to it. -/
theorem EmitsAll.staysInside {emitted : List (RenderUnit × String)}
    (h : EmitsAll (Storage.environment web engine) o extension before emitted after)
    (hunits : ∀ e ∈ emitted, e.1.HasFileInFolder o extension) :
    StaysInside o extension before after := by
  induction h with
  | nil storage => exact .refl o extension storage
  | cons first _ ih =>
    obtain ⟨hfirst, hothers⟩ := List.forall_mem_cons.mp hunits
    exact (first.staysInside hmode hnoSlash hextension hfirst).trans (ih hothers)

end Storages

section Runs

variable {o : Options} {language : Language}
  {web : Address.Url → Option Credentials → Except String String} {engine : Template.Engine}
  (hkey : Registry.builtin.resolve o.converter = .ok language) (hmode : o.singleFile = none)
  (hnoSlash : '/' ∉ o.outputPrefix.toList)
include hkey hmode hnoSlash

/-- The units of a document change nothing outside, whether all of them are emitted or not. -/
theorem staysInside_emitUnits (document : Document) (before : Storage) :
    StaysInside o language.extension before (outcome (emitUnits (Storage.environment web engine) o
      language.extension (document.units o language)) before).2 := by
  have hcareful := Storage.careful_environment web engine
  have hextension := Registry.extension_of_resolve hkey
  have hunits : ∀ u ∈ document.units o language, u.HasFileInFolder o language.extension :=
    fun u hu => hasFileInFolder_of_mem hkey hmode hu
  rcases emitsAll_or_fails hcareful o language.extension before (document.units o language) with
    ⟨emitted, after, hemitted, hall⟩ |
      ⟨emitted, u, others, middle, failure, after, hemitted, hall, hfails⟩
  · rw [← hemitted, outcome_emitUnits_of_emitsAll hcareful hall]
    refine hall.staysInside hmode hnoSlash hextension fun e he => hunits e.1 ?_
    exact hemitted ▸ List.mem_map_of_mem he
  · -- The unit that fails leaves new folders at most.
    rw [hemitted, outcome_emitUnits_of_fails hcareful others hall hfails]
    refine .trans ?_ (.of_gainsFolders (hfails.gainsFolders hcareful))
    refine hall.staysInside hmode hnoSlash hextension fun e he => hunits e.1 ?_
    exact hemitted ▸ List.mem_append_left _ (List.mem_map_of_mem he)

theorem staysInside_generateFromText (text : String) (before : Storage) :
    StaysInside o language.extension before
      (outcome (generateFromText (Storage.environment web engine) o language text) before).2 := by
  rw [generateFromText_eq]
  cases hparsed : Document.parse text with
  | error failure =>
    rw [outcome_bind_of_error (outcome_mk rfl before)]
    exact .refl o language.extension before
  | ok document =>
    have hinside : StaysInside o language.extension before
        (outcome (emitUnits (Storage.environment web engine) o language.extension
          (document.units o language)) before).2 :=
      staysInside_emitUnits hkey hmode hnoSlash document before
    rw [outcome_bind_of_ok (outcome_mk rfl before), outcome_bind]
    rcases hemitted : outcome (emitUnits (Storage.environment web engine) o language.extension
      (document.units o language)) before with ⟨failure | files, after⟩
    · rwa [hemitted] at hinside
    · rwa [hemitted] at hinside

theorem staysInside_generate (before : Storage) :
    StaysInside o language.extension before
      (outcome (generate (Storage.environment web engine) .builtin o) before).2 := by
  have hload := outcome_loadDocument (Storage.careful_environment web engine) o.input
    o.credentials before
  rw [generate, outcome_bind_of_ok (outcome_mk hkey before), outcome_bind]
  rcases hloaded : outcome (loadDocument (Storage.environment web engine) o.input o.credentials)
    before with ⟨failure | text, after⟩
  · rw [hloaded] at hload
    obtain rfl : after = before := hload
    exact .refl o language.extension after
  · rw [hloaded] at hload
    obtain rfl : after = before := hload
    exact staysInside_generateFromText hkey hmode hnoSlash text after

/-- **The output folder**: a run does nothing outside of itself but to read, to fetch, to make the
output folder and to write files for units in it, each of which is one more component behind the
folder. So what changes is a file there or a new folder on the way, whatever the declaration says
and however the run ends. -/
theorem generate_staysInside :
    (∀ (m : Type → Type) [Monad m] [LawfulMonad m] (left right : Environment m),
      left.SameInFolder o language.extension right →
      (∀ text, generateFromText left o language text = generateFromText right o language text) ∧
        generate left .builtin o = generate right .builtin o) ∧
      (∀ file, o.NamesUnit language.extension file → '/' ∉ file.toList ∧
        Path.components (Path.join o.outputFolder file).toList =
          Path.components o.outputFolder.toList ++ [file.toList]) ∧
      ∀ (web : Address.Url → Option Credentials → Except String String)
        (engine : Template.Engine) (before : Storage),
        (∀ text, StaysInside o language.extension before
          (outcome (generateFromText (Storage.environment web engine) o language text) before).2) ∧
          StaysInside o language.extension before
            (outcome (generate (Storage.environment web engine) .builtin o) before).2 := by
  have hextension := Registry.extension_of_resolve hkey
  refine ⟨?_, ?_, ?_⟩
  · intro m _ _ left right hsame
    exact ⟨generateFromText_congr hmode hkey hsame, generate_congr hmode hkey hsame⟩
  · intro file hfile
    exact ⟨(hfile.isComponent hnoSlash hextension).1,
      components_join_of_namesUnit hnoSlash hextension hfile⟩
  · intro web engine before
    exact ⟨fun text => staysInside_generateFromText hkey hmode hnoSlash text before,
      staysInside_generate hkey hmode hnoSlash before⟩

end Runs

/-! ## Models that are called like paths -/

/-- A declaration of models whose names are paths or hold a zero. -/
def hostileText : String :=
  "\x7b\"apis\":[\x7b\"path\":\"/pets\"\x7d],\"models\":\x7b\"../../Pet\":\x7b\x7d," ++
    "\"/etc/passwd\":\x7b\x7d,\"..\":\x7b\x7d,\"\\u0000\":\x7b\x7d,\"\":\x7b\x7d\x7d\x7d"

/-- A locator without a stem and a prefix of dots. -/
def hostileOptions : Options := { petsOptions with input := "pets/..", outputPrefix := ".." }

theorem generate_staysInside_hostileText :
    Registry.builtin.resolve hostileOptions.converter = .ok CSharp.language ∧
      hostileOptions.singleFile = none ∧ '/' ∉ hostileOptions.outputPrefix.toList ∧
      (outcome (generateFromText (Storage.environment noWeb) hostileOptions CSharp.language
        hostileText) (petsStorage petsTemplates)).1 =
          .ok ⟨["out/..______Pet.cs", "out/.._etc_passwd.cs", "out/..__.cs", "out/.._.cs",
            "out/.._1.cs", "out/..OutputClass.cs"], 5, 1, 0⟩ ∧
      StaysInside hostileOptions "cs" (petsStorage petsTemplates)
        (outcome (generateFromText (Storage.environment noWeb) hostileOptions CSharp.language
          hostileText) (petsStorage petsTemplates)).2 := by
  have hnoSlash : '/' ∉ hostileOptions.outputPrefix.toList := by decide
  obtain ⟨-, -, hinside⟩ := @generate_staysInside hostileOptions CSharp.language rfl rfl hnoSlash
  exact ⟨rfl, rfl, hnoSlash, by decide +kernel,
    (hinside noWeb _ (petsStorage petsTemplates)).1 hostileText⟩

end Stencil
