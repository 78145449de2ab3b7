import Stencil.Declaration.Document
import Stencil.Proofs.Declaration.Reading

/-!
# Warnings about a text

The warnings about a declaration follow its text: a walk through the objects of the text that
lists, for each object, the required members that are absent or null, and then the members that
are no fields of its structure. The declaration that is read keeps just what this walk needs.

## Main definitions

* `Declaration.mismatches schema required path object`: what is to be said about the members of
  one object
* `Declaration.walk root`: what is to be said about a whole text

## Main results

* `Declaration.warnings_of_read`: the warnings about a declaration are those of the walk
* `Document.warnings_eq_walk`: so are those of a document, which is accepted or not whatever
  they are
-/

namespace Stencil

namespace Declaration

open Json Warning

/-! ## The walk -/

/-- What is to be said about the members of an object: first the required ones that are missing,
then those that are no fields of the structure, in the order of their bytes. -/
def mismatches {α : Type} (schema : Schema α) (required : List String) (path : String)
    (object : Node) : List Warning :=
  (required.filter fun key => (object.member? key).isNone).map (⟨path, ·, .missing⟩) ++
    (object.unknownKeys schema.fields).map (⟨path, ·, .unknown⟩)

/-- The element description in an object. -/
def walkItems (path : String) (object : Node) : List Warning :=
  match object.member? "items" with
  | none => []
  | some items => mismatches Items.schema [] (path ++ ".items") items

/-- A parameter, then the description of its elements. -/
def walkParameter (path : String) (object : Node) : List Warning :=
  mismatches Parameter.schema ["paramType", "name"] path object ++ walkItems path object

/-- A response. -/
def walkResponse (path : String) (object : Node) : List Warning :=
  mismatches ResponseMessage.schema ["code"] path object

/-- An operation, then the description of its elements, its parameters and its responses. -/
def walkOperation (path : String) (object : Node) : List Warning :=
  mismatches Operation.schema ["method"] path object ++ walkItems path object ++
    ofParts (path ++ ".parameters") walkParameter (object.parts "parameters") ++
    ofParts (path ++ ".responseMessages") walkResponse (object.parts "responseMessages")

/-- A group, then its operations. -/
def walkApi (path : String) (object : Node) : List Warning :=
  mismatches Api.schema ["path"] path object ++
    ofParts (path ++ ".operations") walkOperation (object.parts "operations")

/-- A property, then the description of its elements. -/
def walkProperty (path : String) (object : Node) : List Warning :=
  mismatches Property.schema [] path object ++ walkItems path object

/-- A model, then its properties. -/
def walkModel (path : String) (object : Node) : List Warning :=
  mismatches Model.schema [] path object ++
    (object.table "properties").flatMap fun (name, property) =>
      walkProperty (path ++ ".properties." ++ name) property

/-- A whole declaration: its own members, then the groups, then the models. -/
def walk (root : Node) : List Warning :=
  mismatches schema [] "" root ++ ofParts "apis" walkApi (root.parts "apis") ++
    (root.table "models").flatMap fun (name, model) => walkModel ("models." ++ name) model

/-! ## Warnings about one structure -/

variable {α β γ : Type} {node : Node}

theorem ofUnknown_eq {schema : Schema α} {record : α} (h : schema.read node = .ok record)
    {unknown : Unknown} (hunknown : schema.unknown record = unknown) (path : String) :
    ofUnknown path unknown = mismatches schema [] path node := by
  rw [ofUnknown, ← hunknown, Schema.keys_of_read h]
  rfl

/-- A member is missing in the structure if it is absent or null in the text. -/
theorem ofMissing_append {schema : Schema α} {key : String} {read : Reader β} {get : α → Option β}
    {set : α → Option β → α} {get_set : ∀ record content, get (set record content) = content}
    {set_get : ∀ record, set record (get record) = record}
    (hf : .optional key read get set get_set set_get ∈ schema.table) {record : α}
    (h : schema.read node = .ok record) (required : List String) (path : String) :
    ofMissing path key (get record) ++ mismatches schema required path node =
      mismatches schema (key :: required) path node := by
  have hrel := Schema.rel_member? hf h
  unfold mismatches
  rw [List.filter_cons]
  -- The member is there on both sides, with one value, or on none.
  revert hrel
  cases node.member? key <;> cases get record <;> rintro (_ | _)
  · rfl
  · rfl

/-- Parts of a list are walked through in the order of the list. -/
theorem ofParts_eq {read : Reader β} {nodes : List Node} {parts : List β}
    (h : List.Forall₂ (fun node part => read node = .ok part) nodes parts)
    {about : String → β → List γ} {walk : String → Node → List γ}
    (hparts : ∀ {node} (path : String) {part}, read node = .ok part →
      about path part = walk path node) (path : String) :
    ofParts path about parts = ofParts path walk nodes := by
  unfold ofParts
  -- The places go on from part to part, so that the first one is not always zero.
  generalize 0 = start
  induction h generalizing start with
  | nil => rfl
  | cons hpart hrest ih =>
    simp only [List.zipIdx_cons, List.flatMap_cons, hparts _ hpart, ih]

/-- Named parts are walked through in the order of their names. -/
theorem flatMap_eq {read : Reader β} {nodes : List (String × Node)} {parts : List (String × β)}
    (h : List.Forall₂ (Written.Corresponds fun node part => read node = .ok part) nodes parts)
    {about : String → β → List γ} {walk : String → Node → List γ}
    (hparts : ∀ {node} (path : String) {part}, read node = .ok part →
      about path part = walk path node) (path : String) :
    parts.flatMap (fun (name, part) => about (path ++ name) part) =
      nodes.flatMap fun (name, node) => walk (path ++ name) node := by
  induction h with
  | nil => rfl
  | @cons named other _ _ hpart hrest ih =>
    obtain ⟨name, node⟩ := named
    obtain ⟨_, part⟩ := other
    obtain ⟨rfl, hread⟩ := hpart
    simp only [List.flatMap_cons, ih, hparts _ hread]

/-! ## Warnings about each structure -/

theorem Items.warnings_eq {schema : Schema α} {get : α → Option Items}
    {set : α → Option Items → α} {get_set : ∀ record content, get (set record content) = content}
    {set_get : ∀ record, set record (get record) = record}
    (hf : .optional "items" Items.schema.read get set get_set set_get ∈ schema.table) {record : α}
    (h : schema.read node = .ok record) (path : String) :
    Items.warnings path (get record) = walkItems path node := by
  have hrel := Schema.rel_member? hf h
  unfold walkItems
  revert hrel
  cases node.member? "items" <;> cases get record <;> rintro (hread | _)
  · rfl
  · exact ofUnknown_eq hread rfl (path ++ ".items")

theorem Parameter.warnings_eq (path : String) {parameter : Parameter}
    (h : Parameter.schema.read node = .ok parameter) :
    parameter.warnings path = walkParameter path node := by
  rw [Parameter.warnings, walkParameter, Items.warnings_eq itemsField_mem h,
    List.append_assoc (ofMissing _ _ _), ofUnknown_eq h (Eq.refl parameter.unknown),
    ofMissing_append nameField_mem h, ofMissing_append paramTypeField_mem h]

theorem ResponseMessage.warnings_eq (path : String) {response : ResponseMessage}
    (h : ResponseMessage.schema.read node = .ok response) :
    response.warnings path = walkResponse path node := by
  rw [ResponseMessage.warnings, walkResponse, ofUnknown_eq h (Eq.refl response.unknown),
    ofMissing_append codeField_mem h]

theorem Operation.warnings_eq (path : String) {operation : Operation}
    (h : Operation.schema.read node = .ok operation) :
    operation.warnings path = walkOperation path node := by
  have hparameters := Schema.forall₂_parts_of_orDefault parametersField_mem h
  have hresponses := Schema.forall₂_parts_of_orDefault responseMessagesField_mem h
  rw [Operation.warnings, walkOperation, ofUnknown_eq h (Eq.refl operation.unknown),
    ofMissing_append methodField_mem h, Items.warnings_eq itemsField_mem h,
    ofParts_eq hparameters Parameter.warnings_eq, ofParts_eq hresponses ResponseMessage.warnings_eq]

theorem Api.warnings_eq (path : String) {api : Api} (h : Api.schema.read node = .ok api) :
    api.warnings path = walkApi path node := by
  have hoperations := Schema.forall₂_parts_of_orDefault operationsField_mem h
  rw [Api.warnings, walkApi, ofUnknown_eq h (Eq.refl api.unknown),
    ofMissing_append pathField_mem h, ofParts_eq hoperations Operation.warnings_eq]

theorem Property.warnings_eq (path : String) {property : Property}
    (h : Property.schema.read node = .ok property) :
    property.warnings path = walkProperty path node := by
  rw [Property.warnings, walkProperty, ofUnknown_eq h (Eq.refl property.unknown),
    Items.warnings_eq itemsField_mem h]

theorem Model.warnings_eq (path : String) {model : Model}
    (h : Model.schema.read node = .ok model) : model.warnings path = walkModel path node := by
  have hproperties := Schema.forall₂_table propertiesField_mem h
  rw [Model.warnings, walkModel, ofUnknown_eq h (Eq.refl model.unknown)]
  exact congrArg _ (flatMap_eq hproperties Property.warnings_eq (path ++ ".properties."))

/-- **The warnings about a declaration** are those of a walk through the text it was read
from. -/
theorem warnings_of_read {root : Node} {declaration : Declaration}
    (h : schema.read root = .ok declaration) : declaration.warnings = walk root := by
  have hapis := Schema.forall₂_parts_of_optional apisField_mem h
  have hmodels := Schema.forall₂_table modelsField_mem h
  rw [warnings, walk, ofUnknown_eq h (Eq.refl declaration.unknown),
    ofParts_eq hapis Api.warnings_eq]
  exact congrArg _ (flatMap_eq hmodels Model.warnings_eq "models.")

theorem read_root_of_ofTree {tree : TextTree} {declaration : Declaration}
    (h : ofTree tree = .ok declaration) : schema.read tree.root = .ok declaration := by
  unfold ofTree at h
  split at h
  · cases h
  · cases h
  · rename_i hread _
    rw [hread, Except.ok.inj h]

end Declaration

/-! ## Warnings about a document -/

namespace Document

open Json

/-- A document is a declaration that was read, with the warnings about it. -/
theorem read_of_parse {text : String} {document : Document} (h : parse text = .ok document) :
    Declaration.read (plain text) = .ok document.declaration ∧
      document.warnings = document.declaration.warnings := by
  unfold parse at h
  split at h
  · cases h
  · rename_i declaration hread
    split at h
    · cases h
    · obtain rfl := Except.ok.inj h
      exact ⟨hread, rfl⟩

/-- A document is read out of the root of its tree. -/
theorem read_root_of_parse {text : String} {document : Document}
    (h : parse text = .ok document) :
    Declaration.schema.read (TextTree.read (plain text)).root = .ok document.declaration :=
  Declaration.read_root_of_ofTree (read_of_parse h).1

theorem warnings_of_parse {text : String} {document : Document} (h : parse text = .ok document) :
    document.warnings = Declaration.walk (TextTree.read (plain text)).root := by
  rw [(read_of_parse h).2, Declaration.warnings_of_read (read_root_of_parse h)]

/-- **The warnings about a text** that holds a declaration are those of the walk through its
objects. They do not change whether the text is accepted: it is if it holds a group of
operations. -/
theorem warnings_eq_walk {text : String} {declaration : Declaration}
    (h : Declaration.read (plain text) = .ok declaration) :
    declaration.warnings = Declaration.walk (TextTree.read (plain text)).root ∧
      parse text =
        if ((TextTree.read (plain text)).root.parts "apis").isEmpty then .error .notSwagger
        else .ok ⟨declaration, Declaration.walk (TextTree.read (plain text)).root⟩ := by
  have hread := Declaration.read_root_of_ofTree h
  have hwarnings := Declaration.warnings_of_read hread
  refine ⟨hwarnings, ?_⟩
  have hapis := Declaration.Schema.forall₂_parts_of_optional Declaration.apisField_mem hread
  have hempty : ((TextTree.read (plain text)).root.parts "apis").isEmpty =
      (declaration.apis.getD []).isEmpty := by
    rw [Bool.eq_iff_iff, List.isEmpty_iff_length_eq_zero, List.isEmpty_iff_length_eq_zero,
      hapis.length_eq]
  rw [parse, h, ← hwarnings, hempty]

/-- A text with unknown members that are out of order, missing members at three levels and a
model that is written twice. -/
def mismatchedText : String :=
  "\x7b\"apis\":[\x7b\"é\":[],\"id\":[],\"operations\":[\x7b\"parameters\":[\x7b\x7d]\x7d]\x7d]," ++
    "\"models\":\x7b\"Pet\":\x7b\"tag\":[]\x7d,\"Dog\":\x7b\x7d,\"Pet\":\x7b\"$ref\":[]\x7d\x7d\x7d"

/-- What there is to say about it. -/
def mismatchedWarnings : List Declaration.Warning :=
  [⟨"apis[0]", "path", .missing⟩,
    ⟨"apis[0]", "id", .unknown⟩,
    ⟨"apis[0]", "é", .unknown⟩,
    ⟨"apis[0].operations[0]", "method", .missing⟩,
    ⟨"apis[0].operations[0].parameters[0]", "paramType", .missing⟩,
    ⟨"apis[0].operations[0].parameters[0]", "name", .missing⟩,
    ⟨"models.Pet", "ref", .unknown⟩]

theorem warnings_eq_walk_mismatchedText : ∃ declaration : Declaration,
    Declaration.read (plain mismatchedText) = .ok declaration ∧
      Declaration.walk (TextTree.read (plain mismatchedText)).root = mismatchedWarnings ∧
      parse mismatchedText = .ok ⟨declaration, mismatchedWarnings⟩ := by
  have hfound : (parse mismatchedText).toOption.map (·.warnings) = some mismatchedWarnings := by
    decide +kernel
  match hread : Declaration.read (plain mismatchedText) with
  | .error fault =>
    rw [parse, hread] at hfound
    cases hfound
  | .ok declaration =>
    obtain ⟨-, hparse⟩ := warnings_eq_walk hread
    split at hparse
    · rw [hparse] at hfound
      cases hfound
    · rw [hparse] at hfound
      have hwalk := Option.some.inj hfound
      dsimp only at hwalk
      exact ⟨declaration, rfl, hwalk, by rw [hparse, hwalk]⟩

end Document

end Stencil
