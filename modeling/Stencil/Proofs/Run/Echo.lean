import Stencil.Proofs.Run.FirstFailure
import Stencil.Proofs.Template.Echo

/-!
# Template files that echo the options

A template file of literal pieces and of the fields that its view has as texts gives back what the
options say: the locator of the declaration and the namespace as they are, and for the operations
the name that the locator stands for.

## Main definitions

* `TemplateRole.fields role`: the fields that the view for a role has as texts
* `Options.fieldText o f`: the text of a field

## Main results

* `outcome_render_echo`: what a template file of literal pieces and fields makes of a unit
-/

namespace Stencil

open Template (EchoPart Field echoTemplate isQuiet)

/-- The fields that the view for a role has as texts. -/
def TemplateRole.fields : TemplateRole → List Field
  | model => [.resourceurl, .nameSpace]
  | operations => [.resourceurl, .nameSpace, .name]

/-- The text of a field: an option as it is, or the name that the locator stands for. -/
def Options.fieldText (o : Options) : Field → String
  | .resourceurl => o.input
  | .nameSpace => o.nameSpace
  | .name => (Locator.parse o.input).baseName

variable {o : Options} {u : RenderUnit}

/-- A view has each of its fields as a text. -/
theorem RenderUnit.MadeWith.exists_members (h : u.MadeWith o) :
    ∃ members, u.view = .object members ∧
      ∀ f ∈ u.role.fields, members.lookup f.member = some (.text (o.fieldText f)) := by
  cases h with
  | ofModel d =>
    have hkeys : ["Resourceurl", "Namespace", "DataType"].Nodup := by decide
    refine ⟨_, rfl, fun f hf => @Client.lookup_record _ (f.member, .text (o.fieldText f)) hkeys ?_⟩
    cases f with
    | resourceurl => exact .head _
    | nameSpace => exact .tail _ (.head _)
    | name =>
      -- A class has no such field.
      have hnot : Field.name ∉ TemplateRole.model.fields := by decide
      exact absurd hf hnot
  | ofApis apis =>
    have hkeys : ["Resourceurl", "Namespace", "Name", "Apis"].Nodup := by decide
    refine ⟨_, rfl, fun f _ => @Client.lookup_record _ (f.member, .text (o.fieldText f)) hkeys ?_⟩
    cases f with
    | resourceurl => exact .head _
    | nameSpace => exact .tail _ (.head _)
    | name => exact .tail _ (.tail _ (.head _))

section Rendering

variable {environment : Environment (StateM Storage)} {storage : Storage} {parts : List EchoPart}

/-- **A template file of literal pieces and fields** makes of a unit the literal pieces with the
texts of the fields between them. -/
theorem outcome_render_echo (hcareful : environment.Careful) (hknown : environment.RendersKnown)
    (hunit : u.MadeWith o) (hquiet : isQuiet parts = true)
    (hfields : ∀ f, .field f ∈ parts → f ∈ u.role.fields)
    (htemplate : (environment.readText (u.templatePath o) storage).1 = .ok (echoTemplate parts)) :
    outcome ((Renderer.ofOptions o).render environment u.role u.view) storage =
      (.ok (String.join (parts.map (EchoPart.written o.fieldText))), storage) := by
  obtain ⟨members, hview, hmembers⟩ := hunit.exists_members
  obtain ⟨hecho, hrender⟩ := Template.render_echo hquiet fun f hf => hmembers f (hfields f hf)
  rw [← hview] at hrender
  exact outcome_render_of_renders hcareful (renders_of_isKnown hknown htemplate hecho hrender)

end Rendering

/-! ## Texts that look like a template -/

/-- Options whose texts look like tags, quotes and markup. -/
def tagOptions : Options :=
  { petsOptions with
    input := "\x7b\x7b Model.Namespace \x7d\x7d & 'a'.json"
    nameSpace := "\x7b% if \"<b>\" %\x7d\x7b# x #\x7d\n" }

/-- A template with a brace right behind a field and dashes and braces before another one. -/
def tagParts : List EchoPart :=
  [.literal "// \x7d\x7d -%\x7d ".toList, .field .resourceurl, .literal "\x7b\"|".toList,
    .field .nameSpace, .field .name, .literal ['\x7b']]

/-- A storage with the template for the operations. -/
def tagStorage : Storage := petsStorage [("ActionTemplate.txt", echoTemplate tagParts)]

/-- The unit of all operations, of which there are none. -/
def tagUnit : RenderUnit := .ofApis tagOptions []

/-- What the template makes of the unit. -/
def tagText : String :=
  "// \x7d\x7d -%\x7d \x7b\x7b Model.Namespace \x7d\x7d & 'a'.json" ++
    "\x7b\"|\x7b% if \"<b>\" %\x7d\x7b# x #\x7d\n" ++ "\x7b\x7b Model.Namespace \x7d\x7d & 'a'\x7b"

/-- Nothing in the texts of the options is taken as a part of the template. -/
theorem outcome_render_echo_tags :
    (Storage.environment noWeb).Careful ∧ (Storage.environment noWeb).RendersKnown ∧
      tagUnit.MadeWith tagOptions ∧ isQuiet tagParts = true ∧
      (∀ f, .field f ∈ tagParts → f ∈ tagUnit.role.fields) ∧
      ((Storage.environment noWeb).readText (tagUnit.templatePath tagOptions) tagStorage).1 =
        .ok (echoTemplate tagParts) ∧
      outcome ((Renderer.ofOptions tagOptions).render (Storage.environment noWeb) tagUnit.role
        tagUnit.view) tagStorage = (.ok tagText, tagStorage) := by
  have hcareful := Storage.careful_environment noWeb
  have hknown := Storage.rendersKnown_environment noWeb .empty
  have hunit : tagUnit.MadeWith tagOptions := .ofApis []
  have hquiet : isQuiet tagParts = true := by decide +kernel
  have hfields : ∀ f, .field f ∈ tagParts → f ∈ tagUnit.role.fields := by
    intro f _
    cases f <;> decide
  have htemplate :
      ((Storage.environment noWeb).readText (tagUnit.templatePath tagOptions) tagStorage).1 =
        .ok (echoTemplate tagParts) := by
    decide +kernel
  have htext : String.join (tagParts.map (EchoPart.written tagOptions.fieldText)) = tagText := by
    decide +kernel
  refine ⟨hcareful, hknown, hunit, hquiet, hfields, htemplate, ?_⟩
  rw [← htext]
  exact outcome_render_echo hcareful hknown hunit hquiet hfields htemplate

end Stencil
