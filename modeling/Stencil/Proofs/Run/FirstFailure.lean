import Stencil.Proofs.Client.ClassNames
import Stencil.Proofs.Client.References
import Stencil.Proofs.Client.Registrations
import Stencil.Proofs.Run.Emission

/-!
# The first failure of a run

A run looks its converter up, loads a text and reads a document from it, and none of this changes
a file or folder. Behind that it emits the units of the document in their order. The first
failure ends the run with what was emitted before.

## Main definitions

* `RenderUnit.MadeWith o u`: a unit is that of a class or of all operations
* `Document.units`: a unit for each model of a document and the one of all operations
* `Reaches`: a run that gets as far as the units of a document
* `Failure.isEarly`: whether a failure comes before the units

## Main results

* `outcome_generate`: what comes of a run, and what it leaves
-/

namespace Stencil

/-- A failure of the steps that come before the first unit. -/
def Failure.isEarly : Failure → Bool
  | .unknownConverter _ _ | .transport _ _ | .invalidJson _ | .notSwagger => true
  | .templateMissing _ | .render _ _ | .fileAccess _ _ => false

/-- A unit is that of a class or of all operations, with the options of a run. -/
inductive RenderUnit.MadeWith (o : Options) : RenderUnit → Prop
  | ofModel (d : Client.ModelDescriptor) : RenderUnit.MadeWith o (.ofModel o d)
  | ofApis (apis : List Client.ApiDescriptor) : RenderUnit.MadeWith o (.ofApis o apis)

namespace Document

/-- The units of a document: one for each model in the order of the declaration, and behind them
the one of all operations. -/
def units (document : Document) (o : Options) (language : Language) : List RenderUnit :=
  (Converter.ready language document.declaration).models.map (.ofModel o) ++
    [.ofApis o (Converter.ready language document.declaration).apis]

theorem length_units (document : Document) (o : Options) (language : Language) :
    (document.units o language).length = document.declaration.models.entries.length + 1 := by
  rw [units, List.length_append, List.length_map, Converter.models_ready, Written.map,
    List.length_map]
  rfl

/-- The units of a document are units of classes and of all operations. -/
theorem madeWith_of_mem_units {document : Document} {o : Options} {language : Language}
    {u : RenderUnit} (hu : u ∈ document.units o language) : u.MadeWith o := by
  rcases List.mem_append.mp hu with hu | hu
  · obtain ⟨d, -, rfl⟩ := List.mem_map.mp hu
    exact .ofModel d
  · obtain rfl := List.mem_singleton.mp hu
    exact .ofApis _

/-- What a run reports about the units of a document, whose files are `files`. -/
def report (document : Document) (files : List String) : Report where
  files
  models := document.declaration.models.entries.length
  apis := (document.declaration.apis.getD []).length
  warnings := document.warnings.length

end Document

theorem Converter.length_models (language : Language) (declaration : Declaration) :
    (ready language declaration).models.length = declaration.models.entries.length := by
  rw [models_ready, Written.map, List.length_map]

theorem Converter.length_apis (language : Language) (declaration : Declaration) :
    (ready language declaration).apis.length = (declaration.apis.getD []).length :=
  (Client.forall₂_apiDescriptors language _ _ _).length_eq.symm

section Run

variable {environment : Environment (StateM Storage)} {registry : Registry} {o : Options}
  {before after : Storage} {language : Language} {document : Document}

/-- A run gets as far as the units of a document. -/
structure Reaches (environment : Environment (StateM Storage)) (registry : Registry) (o : Options)
    (before : Storage) (language : Language) (document : Document) : Prop where
  resolved : registry.resolve o.converter = .ok language
  parsed : ∃ text, outcome (loadDocument environment o.input o.credentials) before =
    (.ok text, before) ∧ Document.parse text = .ok document

/-! ## Behind the loading -/

theorem generateFromText_eq (environment : Environment (StateM Storage)) (o : Options)
    (language : Language) (text : String) :
    generateFromText environment o language text = (do
      let document ← ExceptT.mk (pure (Document.parse text))
      let files ← emitUnits environment o language.extension (document.units o language)
      return document.report files) := by
  unfold Document.report
  simp only [← Converter.length_models language, ← Converter.length_apis language]
  rfl

theorem outcome_generateFromText_of_parse {text : String}
    (h : Document.parse text = .ok document) :
    outcome (generateFromText environment o language text) before =
      outcome (do
        let files ← emitUnits environment o language.extension (document.units o language)
        return document.report files) before := by
  rw [generateFromText_eq, outcome_bind_of_ok (outcome_mk h before)]

/-- A run behind the loading that succeeds has emitted all units. -/
theorem exists_emitsAll_of_outcome (hcareful : environment.Careful) {text : String}
    {report : Report}
    (h : outcome (generateFromText environment o language text) before = (.ok report, after)) :
    ∃ document emitted, Document.parse text = .ok document ∧
      emitted.map (·.1) = document.units o language ∧
      EmitsAll environment o language.extension before emitted after ∧
      report = document.report (emitted.map (·.1.target o language.extension)) := by
  cases hparsed : Document.parse text with
  | error failure =>
    rw [generateFromText_eq, outcome_bind_of_error (outcome_mk hparsed before)] at h
    cases h
  | ok document =>
    rw [outcome_generateFromText_of_parse hparsed] at h
    rcases emitsAll_or_fails hcareful o language.extension before (document.units o language) with
      ⟨emitted, last, hunits, hall⟩ |
        ⟨emitted, u, others, middle, failure, last, hunits, hall, hfails⟩
    · rw [← hunits, outcome_bind_of_ok (outcome_emitUnits_of_emitsAll hcareful hall),
        outcome_pure] at h
      obtain ⟨hreport, rfl⟩ := Prod.mk.inj h
      exact ⟨document, emitted, rfl, hunits, hall, (Except.ok.inj hreport).symm⟩
    · rw [hunits, outcome_bind_of_error
        (outcome_emitUnits_of_fails hcareful others hall hfails)] at h
      cases h

theorem outcome_loadDocument (hcareful : environment.Careful) (locator : String)
    (credentials : Option Credentials) (before : Storage) :
    (outcome (loadDocument environment locator credentials) before).2 = before := by
  unfold loadDocument
  split
  · rw [outcome_attempt]
    exact hcareful.fetch _ _ _
  · rw [outcome_attempt]
    exact hcareful.readText _ _

/-! ## Whole runs -/

theorem outcome_generate_of_reaches (h : Reaches environment registry o before language document) :
    outcome (generate environment registry o) before =
      outcome (do
        let files ← emitUnits environment o language.extension (document.units o language)
        return document.report files) before := by
  obtain ⟨hresolved, text, hloaded, hparsed⟩ := h
  rw [generate, outcome_bind_of_ok (outcome_mk hresolved before), outcome_bind_of_ok hloaded,
    outcome_generateFromText_of_parse hparsed]

/-- A run that does not get as far as the units changes nothing. -/
theorem exists_outcome_of_not_reaches (hcareful : environment.Careful)
    (h : ∀ language document, ¬ Reaches environment registry o before language document) :
    ∃ failure, outcome (generate environment registry o) before = (.error failure, before) := by
  cases hresolved : registry.resolve o.converter with
  -- nothing has the key: nothing is read
  | error failure =>
    exact ⟨failure, outcome_bind_of_error (outcome_mk hresolved before) _⟩
  | ok language =>
    have hload := outcome_loadDocument hcareful o.input o.credentials before
    rw [generate, outcome_bind_of_ok (outcome_mk hresolved before)]
    rcases hloaded : outcome (loadDocument environment o.input o.credentials) before with
      ⟨failure | text, after⟩
    -- no text is loaded
    · rw [hloaded] at hload
      obtain rfl : after = before := hload
      exact ⟨failure, outcome_bind_of_error hloaded _⟩
    · rw [hloaded] at hload
      obtain rfl : after = before := hload
      rw [outcome_bind_of_ok hloaded, generateFromText_eq]
      cases hparsed : Document.parse text with
      -- the text holds no document
      | error failure => exact ⟨failure, outcome_bind_of_error (outcome_mk rfl _) _⟩
      | ok document => exact absurd ⟨hresolved, text, hloaded, hparsed⟩ (h language document)

theorem outcome_generate_of_emitsAll (hcareful : environment.Careful)
    (h : Reaches environment registry o before language document)
    {emitted : List (RenderUnit × String)}
    (hunits : emitted.map (·.1) = document.units o language)
    (hall : EmitsAll environment o language.extension before emitted after) :
    outcome (generate environment registry o) before =
      (.ok (document.report ((document.units o language).map (·.target o language.extension))),
        after) := by
  rw [outcome_generate_of_reaches h, ← hunits,
    outcome_bind_of_ok (outcome_emitUnits_of_emitsAll hcareful hall), outcome_pure, List.map_map]
  rfl

theorem outcome_generate_of_fails (hcareful : environment.Careful)
    (h : Reaches environment registry o before language document)
    {emitted : List (RenderUnit × String)} {u : RenderUnit} {others : List RenderUnit}
    {middle : Storage} {failure : Failure}
    (hunits : document.units o language = emitted.map (·.1) ++ u :: others)
    (hall : EmitsAll environment o language.extension before emitted middle)
    (hfails : Fails environment o language.extension middle u failure after) :
    outcome (generate environment registry o) before = (.error failure, after) := by
  rw [outcome_generate_of_reaches h, hunits,
    outcome_bind_of_error (outcome_emitUnits_of_fails hcareful others hall hfails)]

/-- What fails in a unit is not an early failure. -/
theorem Fails.isEarly_eq_false {extension : String} {u : RenderUnit} {failure : Failure}
    (h : Fails environment o extension before u failure after) : failure.isEarly = false := by
  cases h with
  | @read fault => cases fault <;> rfl
  | render | folders | save => rfl

/-- A run that ends with an early failure changes nothing. -/
theorem eq_of_isEarly (hcareful : environment.Careful) {failure : Failure}
    (h : outcome (generate environment registry o) before = (.error failure, after))
    (hearly : failure.isEarly = true) : after = before := by
  -- Behind the reading of a document a run succeeds or fails in a unit, which is not early.
  by_cases hreaches : ∃ language document, Reaches environment registry o before language document
  · obtain ⟨language, document, hreaches⟩ := hreaches
    rcases emitsAll_or_fails hcareful o language.extension before (document.units o language) with
      ⟨emitted, last, hunits, hall⟩ |
        ⟨emitted, u, others, middle, other, last, hunits, hall, hfails⟩
    · rw [outcome_generate_of_emitsAll hcareful hreaches hunits hall] at h
      cases h
    · rw [outcome_generate_of_fails hcareful hreaches hunits hall hfails] at h
      obtain rfl : other = failure := Except.error.inj (Prod.mk.inj h).1
      cases hfails.isEarly_eq_false.symm.trans hearly
  · obtain ⟨other, hother⟩ := exists_outcome_of_not_reaches hcareful
      fun language document hreach => hreaches ⟨language, document, hreach⟩
    rw [hother] at h
    exact (Prod.mk.inj h).2.symm

/-- **What comes of a run**: it is refused at once if nothing has its key, and an early failure
changes nothing. If it reaches the units of a document, either all of them are emitted and
reported in their order, or the first that fails ends the run with its failure, and the storage
is that behind the units before it up to new folders along the path of the output folder. -/
theorem outcome_generate (hcareful : environment.Careful) (registry : Registry) (o : Options)
    (before : Storage) :
    (o.converter ∉ registry.keys → outcome (generate environment registry o) before =
        (.error (.unknownConverter o.converter registry.keys), before)) ∧
      (∀ failure after, outcome (generate environment registry o) before = (.error failure, after) →
        failure.isEarly = true → after = before) ∧
      ∀ language document, Reaches environment registry o before language document →
        (document.units o language).length = document.declaration.models.entries.length + 1 ∧
        (∀ emitted after, emitted.map (·.1) = document.units o language →
          EmitsAll environment o language.extension before emitted after →
          outcome (generate environment registry o) before =
            (.ok ⟨(document.units o language).map (·.target o language.extension),
              document.declaration.models.entries.length,
              (document.declaration.apis.getD []).length, document.warnings.length⟩, after)) ∧
        (∀ emitted u others middle failure after,
          document.units o language = emitted.map (·.1) ++ u :: others →
          EmitsAll environment o language.extension before emitted middle →
          Fails environment o language.extension middle u failure after →
          outcome (generate environment registry o) before = (.error failure, after) ∧
            middle.GainsFolders o.outputFolder after) ∧
        ((∃ emitted after, emitted.map (·.1) = document.units o language ∧
            EmitsAll environment o language.extension before emitted after) ∨
          ∃ emitted u others middle failure after,
            document.units o language = emitted.map (·.1) ++ u :: others ∧
            EmitsAll environment o language.extension before emitted middle ∧
            Fails environment o language.extension middle u failure after) := by
  refine ⟨?_, ?_, ?_⟩
  · intro hkey
    exact outcome_bind_of_error (outcome_mk (Registry.resolve_of_notMem hkey) before) _
  · intro failure after h hearly
    exact eq_of_isEarly hcareful h hearly
  · intro language document hreaches
    refine ⟨document.length_units o language, ?_, ?_, ?_⟩
    · intro emitted after hunits hall
      exact outcome_generate_of_emitsAll hcareful hreaches hunits hall
    · intro emitted u others middle failure after hunits hall hfails
      constructor
      · exact outcome_generate_of_fails hcareful hreaches hunits hall hfails
      · exact hfails.gainsFolders hcareful
    · exact emitsAll_or_fails hcareful o language.extension before (document.units o language)

/-! ## A missing template file -/

/-- Nothing is found on the web. -/
def noWeb : Address.Url → Option Credentials → Except String String := fun _ _ => .error ""

/-- A declaration with a group of operations and one model. -/
def petsText : String :=
  "\x7b\"apis\":[\x7b\"path\":\"/pets\"\x7d],\"models\":\x7b\"Pet\":\x7b\x7d\x7d\x7d"

/-- A storage with a declaration and template files. -/
def petsStorage (templates : List (String × String)) : Storage where
  entries := (["pets.json"], .file petsText.toUTF8) :: (["Templates"], .folder) ::
    templates.map fun (name, text) => (["Templates", name], .file text.toUTF8)

/-- What a run is asked to do in the storage. -/
def petsOptions : Options := { input := "pets.json", nameSpace := "Zoo", outputFolder := "out" }

theorem exists_reaches_pets :
    ∃ document, Reaches (Storage.environment noWeb) .builtin petsOptions
      (petsStorage [("ModelTemplate.txt", "model")]) CSharp.language document := by
  have hloaded : (outcome (loadDocument (Storage.environment noWeb) petsOptions.input
      petsOptions.credentials) (petsStorage [("ModelTemplate.txt", "model")])).1 =
        .ok petsText := by
    decide +kernel
  have hkept := outcome_loadDocument (Storage.careful_environment noWeb) petsOptions.input
    petsOptions.credentials (petsStorage [("ModelTemplate.txt", "model")])
  have hsome : (Document.parse petsText).toOption.isSome = true := by decide +kernel
  cases hparsed : Document.parse petsText with
  | error failure =>
    rw [hparsed] at hsome
    cases hsome
  | ok document => exact ⟨document, rfl, petsText, Prod.ext hloaded hkept, hparsed⟩

/-- Without a template file for operations, the class is emitted and the operations fail. -/
theorem outcome_generate_petsStorage :
    (Storage.environment noWeb).Careful ∧
      outcome (generate (Storage.environment noWeb) .builtin
        { petsOptions with converter := "java" }) (petsStorage []) =
        (.error (.unknownConverter "java" ["c#", "typescript"]), petsStorage []) ∧
      ∃ document emitted u others middle after,
        Reaches (Storage.environment noWeb) .builtin petsOptions
          (petsStorage [("ModelTemplate.txt", "model")]) CSharp.language document ∧
        document.units petsOptions CSharp.language = emitted.map (·.1) ++ u :: others ∧
        EmitsAll (Storage.environment noWeb) petsOptions "cs"
          (petsStorage [("ModelTemplate.txt", "model")]) emitted middle ∧
        Fails (Storage.environment noWeb) petsOptions "cs" middle u
          (.templateMissing "Templates/ActionTemplate.txt") after ∧
        middle.GainsFolders "out" after ∧ after.readText "out/Pet.cs" = .ok "model" := by
  have hcareful := Storage.careful_environment noWeb
  have hunknown := (outcome_generate hcareful .builtin
    { petsOptions with converter := "java" } (petsStorage [])).1 (by decide)
  have hrun := outcome_generate hcareful .builtin petsOptions
    (petsStorage [("ModelTemplate.txt", "model")])
  obtain ⟨document, hreaches⟩ := exists_reaches_pets
  obtain ⟨-, hdone, hfailed, hcases⟩ := hrun.2.2 CSharp.language document hreaches
  have hresult : (outcome (generate (Storage.environment noWeb) .builtin petsOptions)
      (petsStorage [("ModelTemplate.txt", "model")])).1 =
        .error (.templateMissing "Templates/ActionTemplate.txt") := by
    decide +kernel
  have hpet : (outcome (generate (Storage.environment noWeb) .builtin petsOptions)
      (petsStorage [("ModelTemplate.txt", "model")])).2.readText "out/Pet.cs" = .ok "model" := by
    decide +kernel
  refine ⟨hcareful, hunknown, document, ?_⟩
  rcases hcases with ⟨emitted, after, hunits, hall⟩ |
    ⟨emitted, u, others, middle, failure, after, hunits, hall, hfails⟩
  · rw [hdone emitted after hunits hall] at hresult
    cases hresult
  · obtain ⟨houtcome, hgains⟩ := hfailed emitted u others middle failure after hunits hall hfails
    rw [houtcome] at hresult hpet
    obtain rfl := Except.error.inj hresult
    exact ⟨emitted, u, others, middle, after, hreaches, hunits, hall, hfails, hgains, hpet⟩

end Run

end Stencil
