import Stencil.Proofs.Run.FirstFailure
import Stencil.Proofs.Storage.File
import Stencil.Proofs.Template.Check
import Stencil.Run.ShippedTemplates

/-!
# Shipped templates fit their views

The views of classes and of the operations have the same shapes for all declarations, languages
and options. The shipped templates are checked against these shapes, so that they render all units
of all documents.

## Main definitions

* `PropertyDescriptor.shape`, `ModelDescriptor.shape`, `ParameterDescriptor.shape`,
  `OperationDescriptor.shape`, `ApiDescriptor.shape`: what templates know of a descriptor
* `TemplateRole.viewShape role`: the shape of the views for a role
* `TemplatePair.LiesIn`: the template files of a pair are in a folder

## Main results

* `RenderUnit.MadeWith.fits_view`: the view of a unit has the shape for its role
* `TemplatePair.checks_shipped`: the shipped templates have no faults for the views of their roles
* `TemplatePair.isKnown_shipped`: they call no functions
* `exists_outcome_render_of_shipped`: the shipped templates render the units of a document
-/

namespace Stencil

open Template (Shape checks)
open Template.Shape (fits_record)
open Written (Corresponds)

/-! ## Shapes of descriptors -/

namespace Client

/-- What is known of a property. -/
def PropertyDescriptor.shape : Shape := .record [
  ("Name", .anything),
  ("JsonName", .anything),
  ("Type", .anything),
  ("Description", .anything),
  ("Required", .anything),
  ("IsArray", .anything),
  ("IsReference", .anything),
  ("Enum", .list .anything)]

/-- What is known of a class. -/
def ModelDescriptor.shape : Shape := .record [
  ("Name", .anything),
  ("OriginalName", .anything),
  ("FileName", .anything),
  ("Description", .anything),
  ("Properties", .list PropertyDescriptor.shape),
  ("Parent", .anything),
  ("SubTypes", .list .anything),
  ("Discriminator", .anything)]

/-- What is known of a parameter. -/
def ParameterDescriptor.shape : Shape := .record [
  ("Name", .anything),
  ("JsonName", .anything),
  ("Type", .anything),
  ("Location", .anything),
  ("Required", .anything),
  ("Description", .anything)]

/-- What is known of an operation. -/
def OperationDescriptor.shape : Shape := .record [
  ("Name", .anything),
  ("Method", .anything),
  ("Path", .anything),
  ("ReturnType", .anything),
  ("Summary", .anything),
  ("Notes", .anything),
  ("Deprecated", .anything),
  ("Parameters", .list ParameterDescriptor.shape)]

/-- What is known of a group of operations. -/
def ApiDescriptor.shape : Shape := .record [
  ("Path", .anything),
  ("Description", .anything),
  ("Operations", .list OperationDescriptor.shape)]

@[simp]
theorem PropertyDescriptor.fits_view (p : PropertyDescriptor) : shape.Fits p.view :=
  fits_record (by simp [Corresponds]) (by decide)

@[simp]
theorem ModelDescriptor.fits_view (m : ModelDescriptor) : shape.Fits m.view :=
  fits_record (by simp [Corresponds]) (by decide)

@[simp]
theorem ParameterDescriptor.fits_view (p : ParameterDescriptor) : shape.Fits p.view :=
  fits_record (by simp [Corresponds]) (by decide)

@[simp]
theorem OperationDescriptor.fits_view (o : OperationDescriptor) : shape.Fits o.view :=
  fits_record (by simp [Corresponds]) (by decide)

@[simp]
theorem ApiDescriptor.fits_view (a : ApiDescriptor) : shape.Fits a.view :=
  fits_record (by simp [Corresponds]) (by decide)

end Client

/-! ## Shapes of views -/

/-- What is known of the views for a role. -/
def TemplateRole.viewShape : TemplateRole → Shape
  | model => .record [
      ("Resourceurl", .anything),
      ("Namespace", .anything),
      ("DataType", Client.ModelDescriptor.shape)]
  | operations => .record [
      ("Resourceurl", .anything),
      ("Namespace", .anything),
      ("Name", .anything),
      ("Apis", .list Client.ApiDescriptor.shape)]

/-- **The view of a unit** has the shape for its role, whatever it is made from. -/
theorem RenderUnit.MadeWith.fits_view {o : Options} {u : RenderUnit} (h : u.MadeWith o) :
    u.role.viewShape.Fits u.view := by
  cases h with
  | ofModel d => exact fits_record (by simp [Corresponds]) (by decide)
  | ofApis apis => exact fits_record (by simp [Corresponds]) (by decide)

/-! ## Shipped templates -/

theorem Template.toList_ofLines (lines : List String) :
    (ofLines lines).toList = lines.flatMap fun line => line.toList ++ ['\n'] := by
  induction lines with
  | nil => rfl
  | cons line lines ih =>
    rw [List.flatMap_cons, ← ih, ofLines, List.map_cons, String.join_cons, String.toList_append,
      String.toList_append]
    rfl

namespace TemplatePair

open Template (Node Piece isKnown shown tag trimTag toList_ofLines)

theorem checks_and_isKnown_shipped {pair : TemplatePair} (hpair : pair ∈ shipped)
    (role : TemplateRole) :
    (checks (pair.template role) role.viewShape && isKnown (pair.template role)) = true := by
  -- The text of a template is short parts of lines, which are read by computation.
  rcases List.mem_pair.mp hpair with rfl | rfl
  all_goals
    cases role
    all_goals
      simp only [csharp, typeScript, csharpModel, csharpOperations, typeScriptModel,
        typeScriptOperations, checks, isKnown, Node.read?, Piece.split?, toList_ofLines,
        List.flatMap_cons, List.flatMap_nil, shown, tag, trimTag, String.toList_append]
      decide +kernel

/-- **The shipped templates** have no faults for the views of their roles. -/
theorem checks_shipped {pair : TemplatePair} (hpair : pair ∈ shipped) (role : TemplateRole) :
    checks (pair.template role) role.viewShape = true :=
  (Bool.and_eq_true_iff.mp (checks_and_isKnown_shipped hpair role)).1

/-- **The shipped templates** are known. -/
theorem isKnown_shipped {pair : TemplatePair} (hpair : pair ∈ shipped) (role : TemplateRole) :
    isKnown (pair.template role) = true :=
  (Bool.and_eq_true_iff.mp (checks_and_isKnown_shipped hpair role)).2

/-- The template files of a pair are in a folder. -/
def LiesIn (pair : TemplatePair) (environment : Environment (StateM Storage)) (folder : String)
    (storage : Storage) : Prop :=
  ∀ role, (environment.readText ((⟨folder, pair.namePrefix⟩ : Renderer).path role) storage).1 =
    .ok (pair.template role)

end TemplatePair

section Rendering

variable {environment : Environment (StateM Storage)} {o : Options} {storage : Storage}
  {pair : TemplatePair}

/-- Known templates without faults for the views of their roles render every unit. -/
theorem exists_outcome_render_of_checks (hcareful : environment.Careful)
    (hknown : environment.RendersKnown) (hstart : o.templatePrefix = pair.namePrefix)
    (hfiles : pair.LiesIn environment o.templateFolder storage)
    (htemplates : ∀ role, Template.isKnown (pair.template role) = true)
    (hchecks : ∀ role, checks (pair.template role) role.viewShape = true) {u : RenderUnit}
    (hunit : u.MadeWith o) :
    ∃ text, Template.render (pair.template u.role) u.view = .ok text ∧
      outcome ((Renderer.ofOptions o).render environment u.role u.view) storage =
        (.ok text, storage) := by
  obtain ⟨text, htext⟩ := Template.exists_render_of_checks (hchecks u.role) hunit.fits_view
  refine ⟨text, htext, outcome_render_of_renders hcareful ?_⟩
  refine renders_of_isKnown hknown ?_ (htemplates u.role) htext
  -- The options name the files of the pair.
  have hpath : u.templatePath o = (⟨o.templateFolder, pair.namePrefix⟩ : Renderer).path u.role := by
    rw [RenderUnit.templatePath, Renderer.ofOptions, hstart]
  rw [hpath]
  exact hfiles u.role

/-- **The shipped templates** render each class and the operations of every document, in every
language and with every input and namespace, and what they write is the outcome. -/
theorem exists_outcome_render_of_shipped (hcareful : environment.Careful)
    (hknown : environment.RendersKnown) (hpair : pair ∈ TemplatePair.shipped)
    (hstart : o.templatePrefix = pair.namePrefix)
    (hfiles : pair.LiesIn environment o.templateFolder storage) (document : Document)
    (language : Language) {u : RenderUnit} (hu : u ∈ document.units o language) :
    ∃ text, Template.render (pair.template u.role) u.view = .ok text ∧
      outcome ((Renderer.ofOptions o).render environment u.role u.view) storage =
        (.ok text, storage) :=
  exists_outcome_render_of_checks hcareful hknown hstart hfiles
    (TemplatePair.isKnown_shipped hpair) (TemplatePair.checks_shipped hpair)
    (Document.madeWith_of_mem_units hu)

end Rendering

/-! ## A folder with templates -/

/-- A storage with the template files of a pair. -/
def shippedStorage (pair : TemplatePair) : Storage := petsStorage [
  (pair.namePrefix ++ "ModelTemplate.txt", pair.template .model),
  (pair.namePrefix ++ "ActionTemplate.txt", pair.template .operations)]

theorem liesIn_shippedStorage_typeScript :
    TemplatePair.typeScript.LiesIn (Storage.environment noWeb) "Templates"
      (shippedStorage .typeScript) := by
  intro role
  have hholds : (shippedStorage .typeScript).Holds
      ((⟨"Templates", "ts"⟩ : Renderer).path role) (TemplatePair.typeScript.template role) := by
    cases role with
    | model => exact ⟨by decide +kernel, by decide +kernel, by rfl⟩
    | operations => exact ⟨by decide +kernel, by decide +kernel, by rfl⟩
  exact hholds.readText

/-- What a run with the templates for TypeScript is asked to do. -/
def typeScriptOptions : Options :=
  { petsOptions with converter := "typescript", templatePrefix := "ts" }

/-- A class with a property that has allowed values and one that has no description, and a group
with an operation that is deprecated and has two parameters. -/
def clinicDocument : Document where
  declaration :=
    { apis := some [{
        path := some "/pets"
        operations := [{
          method := some "get", summary := some "\x7b\x7b dt.Name \x7d\x7d"
          deprecated := some (.flag true)
          parameters := [{ name := some "limit" },
            { name := some "tag", description := some "" }] }] }]
      models := ⟨[("Pet", {
        required := ["kind"]
        properties := ⟨[
          ("kind", { type := some "string", allowedValues := some [.text "cat", .null] }),
          ("age", { type := some "integer", description := some "in years" })], by decide⟩ })],
        by decide⟩ }
  warnings := []

/-- The class and the operations are rendered. -/
theorem exists_outcome_render_of_shipped_clinic :
    (Storage.environment noWeb).Careful ∧ (Storage.environment noWeb).RendersKnown ∧
      TemplatePair.typeScript ∈ TemplatePair.shipped ∧
      typeScriptOptions.templatePrefix = TemplatePair.typeScript.namePrefix ∧
      TemplatePair.typeScript.LiesIn (Storage.environment noWeb) typeScriptOptions.templateFolder
        (shippedStorage .typeScript) ∧
      ∃ u v text other,
        clinicDocument.units typeScriptOptions TypeScript.language = [u, v] ∧
        Template.render TemplatePair.typeScriptModel u.view = .ok text ∧
        outcome ((Renderer.ofOptions typeScriptOptions).render (Storage.environment noWeb) u.role
          u.view) (shippedStorage .typeScript) = (.ok text, shippedStorage .typeScript) ∧
        Template.render TemplatePair.typeScriptOperations v.view = .ok other ∧
        outcome ((Renderer.ofOptions typeScriptOptions).render (Storage.environment noWeb) v.role
          v.view) (shippedStorage .typeScript) = (.ok other, shippedStorage .typeScript) := by
  have hcareful := Storage.careful_environment noWeb
  have hknown := Storage.rendersKnown_environment noWeb .empty
  have hmember : TemplatePair.typeScript ∈ TemplatePair.shipped := .tail _ (.head _)
  have hstart : typeScriptOptions.templatePrefix = TemplatePair.typeScript.namePrefix := rfl
  have hfiles := liesIn_shippedStorage_typeScript
  refine ⟨hcareful, hknown, hmember, hstart, hfiles, ?_⟩
  obtain ⟨text, htext, hclass⟩ := exists_outcome_render_of_shipped hcareful hknown hmember hstart
    hfiles clinicDocument TypeScript.language (List.mem_append_left _ (.head _))
  obtain ⟨other, hother, hoperations⟩ := exists_outcome_render_of_shipped hcareful hknown hmember
    hstart hfiles clinicDocument TypeScript.language (List.mem_append_right _ (.head _))
  exact ⟨_, _, text, other, rfl, htext, hclass, hother, hoperations⟩

end Stencil
