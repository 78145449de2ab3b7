import Stencil.Proofs.Client.KnownMembers
import Stencil.Proofs.Run.Files

/-!
# Runs and unknown members

What a run does with a document is a matter of its known members. So two texts that differ only in
members that no structure knows lead to the same descriptors, the same files and the same failures,
whatever these members hold; only the number of warnings in the report is not the same. This is so
in every environment: a run does and asks for the same things in the same order, so that from the
same state of the world, with its files, its variables, its clock and its chance, it leaves the same
state.

## Main results

* `Document.units_eq_of_known_eq`: the units of a document are made of known members
* `generateFromText_eq_map_of_agree`: runs on texts that agree, in any environment
* `outcome_generateFromText_of_agree`: descriptors, steps, results and what is left
-/

namespace Stencil

open Json Converter

/-! ## Units and reports -/

section Documents

variable {document other : Document} (h : document.declaration.known = other.declaration.known)
include h

theorem Document.units_eq_of_known_eq (o : Options) (language : Language) :
    document.units o language = other.units o language := by
  have hmodels : (ready language document.declaration).models =
      (ready language other.declaration).models := models_eq_of_known_eq language 1 h
  have hapis : (ready language document.declaration).apis =
      (ready language other.declaration).apis := apis_eq_of_known_eq language 1 h
  rw [units, units, hmodels, hapis]

theorem Document.report_eq_of_known_eq (files : List String) :
    other.report files = { document.report files with warnings := other.warnings.length } := by
  -- The report counts models and groups, of which there are as many without unknown members.
  have hmodels : document.declaration.models.entries.length =
      other.declaration.models.entries.length := by
    have hlength := congrArg (fun d : Declaration => d.models.entries.length) h
    simpa only [Declaration.known, Written.mapValues, List.length_map] using hlength
  have hapis : (document.declaration.apis.getD []).length =
      (other.declaration.apis.getD []).length := by
    have hlength := congrArg (fun d : Declaration => (d.apis.getD []).length) h
    simpa only [Declaration.getD_apis_known, List.length_map] using hlength
  rw [report, report, hmodels, hapis]

end Documents

/-! ## Runs -/

section Runs

variable {m : Type → Type} [Monad m] [LawfulMonad m] {left right : String}
  {document other : Document}

theorem generateFromText_of_parse {text : String} (h : Document.parse text = .ok document)
    (environment : Environment m) (o : Options) (language : Language) :
    generateFromText environment o language text = document.report <$>
      emitUnits environment o language.extension (document.units o language) := by
  have hparsed : (ExceptT.mk (pure (Document.parse text)) : ExceptT Failure m Document) =
      pure document := by
    rw [h]
    rfl
  unfold generateFromText Document.report
  simp only [← Converter.length_models language, ← Converter.length_apis language]
  rw [hparsed, pure_bind, map_eq_pure_bind]
  rfl

variable (hagree : Declaration.Agree (TextTree.read (Document.plain left)).root
    (TextTree.read (Document.plain right)).root)
  (hleft : Document.parse left = .ok document) (hright : Document.parse right = .ok other)
include hagree hleft hright

/-- In any environment, runs on texts that agree do the same and report the same but for the
number of warnings. -/
theorem generateFromText_eq_map_of_agree (environment : Environment m) (o : Options)
    (language : Language) :
    generateFromText environment o language right =
      (fun report => { report with warnings := other.warnings.length }) <$>
        generateFromText environment o language left := by
  have hknown := Document.known_eq_of_agree hagree hleft hright
  have hreport : other.report = (fun report => { report with warnings := other.warnings.length }) ∘
      document.report := funext (Document.report_eq_of_known_eq hknown)
  rw [generateFromText_of_parse hright, generateFromText_of_parse hleft,
    Document.units_eq_of_known_eq hknown, hreport, comp_map]

/-- **Unknown members** have no part in a run: the descriptors for two texts that agree are the
same, and so are all steps of runs on them in any environment. From any state of the world the runs
leave the same state, and fail alike or report the same up to the number of warnings. The world is
all that the environment looks at, so that templates may ask for variables, the time or chance. -/
theorem outcome_generateFromText_of_agree :
    (∀ (language : Language) (calls : Nat),
      (register^[calls] { language, declaration := other.declaration }).models =
          (register^[calls] { language, declaration := document.declaration }).models ∧
        (register^[calls] { language, declaration := other.declaration }).apis =
          (register^[calls] { language, declaration := document.declaration }).apis) ∧
      (∀ (m : Type → Type) [Monad m] [LawfulMonad m] (environment : Environment m) (o : Options)
        (language : Language), generateFromText environment o language right =
          (fun report => { report with warnings := other.warnings.length }) <$>
            generateFromText environment o language left) ∧
      ∀ (World : Type) (environment : Environment (StateM World)) (o : Options)
        (language : Language) (before : World),
        outcome (generateFromText environment o language right) before =
          ((outcome (generateFromText environment o language left) before).1.map
              fun report => { report with warnings := other.warnings.length },
            (outcome (generateFromText environment o language left) before).2) := by
  have hknown := Document.known_eq_of_agree hagree hleft hright
  refine ⟨?_, ?_, ?_⟩
  · intro language calls
    exact ⟨(models_eq_of_known_eq language calls hknown).symm,
      (apis_eq_of_known_eq language calls hknown).symm⟩
  · intro m _ _
    exact generateFromText_eq_map_of_agree hagree hleft hright
  · intro World environment o language before
    rw [generateFromText_eq_map_of_agree hagree hleft hright, outcome_map]

end Runs

/-! ## Unknown members in all structures -/

/-- A declaration in which each of the eight structures stands once. -/
def bareText : String :=
  "\x7b\"apis\":[\x7b\"operations\":[\x7b\"items\":\x7b\x7d,\"parameters\":[\x7b\x7d]," ++
    "\"responseMessages\":[\x7b\x7d]\x7d]\x7d],\"models\":\x7b\"A\":\x7b\"properties\":" ++
    "\x7b\"a\":\x7b\x7d\x7d\x7d\x7d\x7d"

/-- The same with an unknown member in each of them. -/
def annotatedText : String :=
  "\x7b\"\":0,\"apis\":[\x7b\"operations\":[\x7b\"\":[],\"items\":\x7b\"\":\x7b\x7d\x7d," ++
    "\"parameters\":[\x7b\"\":1\x7d],\"responseMessages\":[\x7b\"\":\"\"\x7d]\x7d],\"\":0\x7d]," ++
    "\"models\":\x7b\"A\":\x7b\"\":[0],\"properties\":\x7b\"a\":\x7b\"\":null\x7d\x7d\x7d\x7d\x7d"

theorem outcome_generateFromText_of_agree_annotatedText :
    ∃ document other, Declaration.Agree (TextTree.read (Document.plain bareText)).root
        (TextTree.read (Document.plain annotatedText)).root ∧
      Document.parse bareText = .ok document ∧ Document.parse annotatedText = .ok other ∧
      document.warnings.length = 5 ∧ other.warnings.length = 13 ∧
      ∃ after, outcome (generateFromText (Storage.environment noWeb) petsOptions CSharp.language
          bareText) (petsStorage petsTemplates) =
            (.ok ⟨["out/A.cs", "out/pets.cs"], 1, 1, 5⟩, after) ∧
        outcome (generateFromText (Storage.environment noWeb) petsOptions CSharp.language
          annotatedText) (petsStorage petsTemplates) =
            (.ok ⟨["out/A.cs", "out/pets.cs"], 1, 1, 13⟩, after) := by
  have hfacts : Declaration.Agree (TextTree.read (Document.plain bareText)).root
        (TextTree.read (Document.plain annotatedText)).root ∧
      (Document.parse bareText).toOption.map (·.warnings.length) = some 5 ∧
      (Document.parse annotatedText).toOption.map (·.warnings.length) = some 13 ∧
      (outcome (generateFromText (Storage.environment noWeb) petsOptions CSharp.language
        bareText) (petsStorage petsTemplates)).1 =
          .ok ⟨["out/A.cs", "out/pets.cs"], 1, 1, 5⟩ := by
    decide +kernel
  obtain ⟨hagree, hbare, hannotated, hresult⟩ := hfacts
  cases hleft : Document.parse bareText with
  | error failure =>
    rw [hleft] at hbare
    cases hbare
  | ok document =>
    cases hright : Document.parse annotatedText with
    | error failure =>
      rw [hright] at hannotated
      cases hannotated
    | ok other =>
      rw [hleft] at hbare
      rw [hright] at hannotated
      have hfew : document.warnings.length = 5 := Option.some.inj hbare
      have hmany : other.warnings.length = 13 := Option.some.inj hannotated
      obtain ⟨-, -, hruns⟩ := outcome_generateFromText_of_agree hagree hleft hright
      obtain ⟨after, hrun⟩ := exists_outcome_eq hresult
      refine ⟨document, other, hagree, rfl, rfl, hfew, hmany, after, hrun, ?_⟩
      rw [hruns, hrun, hmany]
      rfl

end Stencil
