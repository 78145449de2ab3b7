import Stencil.Proofs.Declaration.Warnings

/-!
# Order of the warnings about one object

The walk through a text comes to one object after the other, and lists what is to be said about it
before it goes on. Unknown members of one object are listed in the order of their bytes, which need
not be the one in which they are written: of two of them, the one written first is reported first
exactly if its key has the lesser bytes.

## Main definitions

* `Declaration.Visit`: an object of a text, as the walk comes to it
* `Declaration.visits root`: the objects of a text in the order of the walk

## Main results

* `Declaration.walk_eq_flatMap`: the walk lists what is to be said about each object
* `Document.unknown_inTextOrder_iff`: which of two unknown members of an object is reported first
-/

namespace Stencil

namespace Declaration

open Json Warning

/-! ## Objects of a text -/

/-- An object of a text, as the walk comes to it: where it is, and which members its structure knows
and which of them it requires. -/
structure Visit where
  path : String
  fields : List String
  required : List String
  object : Node

namespace Visit

/-- A visit to the object of a structure. -/
def of {α : Type} (schema : Schema α) (required : List String) (path : String) (object : Node) :
    Visit := ⟨path, schema.fields, required, object⟩

/-- The warning about an unknown member. -/
def unknown (v : Visit) (key : String) : Warning := ⟨v.path, key, .unknown⟩

/-- The warning about a required member. -/
def missing (v : Visit) (key : String) : Warning := ⟨v.path, key, .missing⟩

/-- What is to be said about the members of the object. -/
def warnings (v : Visit) : List Warning :=
  (v.required.filter fun key => (v.object.member? key).isNone).map v.missing ++
    (v.object.unknownKeys v.fields).map v.unknown

/-- The keys of the unknown members in the order in which they are written: a key that comes
several times counts where it comes first. -/
def writtenKeys (v : Visit) : List String :=
  ((Written.settle v.object.members).map (·.1)).filter (· ∉ v.fields)

end Visit

/-- The element description in an object. -/
def itemsVisits (path : String) (object : Node) : List Visit :=
  match object.member? "items" with
  | none => []
  | some items => [.of Items.schema [] (path ++ ".items") items]

/-- A parameter, then the description of its elements. -/
def parameterVisits (path : String) (object : Node) : List Visit :=
  .of Parameter.schema ["paramType", "name"] path object :: itemsVisits path object

/-- A response. -/
def responseVisits (path : String) (object : Node) : List Visit :=
  [.of ResponseMessage.schema ["code"] path object]

/-- An operation, then the description of its elements, its parameters and its responses. -/
def operationVisits (path : String) (object : Node) : List Visit :=
  .of Operation.schema ["method"] path object :: itemsVisits path object ++
    ofParts (path ++ ".parameters") parameterVisits (object.parts "parameters") ++
    ofParts (path ++ ".responseMessages") responseVisits (object.parts "responseMessages")

/-- A group, then its operations. -/
def apiVisits (path : String) (object : Node) : List Visit :=
  .of Api.schema ["path"] path object ::
    ofParts (path ++ ".operations") operationVisits (object.parts "operations")

/-- A property, then the description of its elements. -/
def propertyVisits (path : String) (object : Node) : List Visit :=
  .of Property.schema [] path object :: itemsVisits path object

/-- A model, then its properties. -/
def modelVisits (path : String) (object : Node) : List Visit :=
  .of Model.schema [] path object ::
    (object.table "properties").flatMap fun (name, property) =>
      propertyVisits (path ++ ".properties." ++ name) property

/-- All objects of a text: the declaration itself, then the groups, then the models. -/
def visits (root : Node) : List Visit :=
  .of schema [] "" root :: ofParts "apis" apiVisits (root.parts "apis") ++
    (root.table "models").flatMap fun (name, model) => modelVisits ("models." ++ name) model

/-! ## What is said about each object -/

theorem warnings_of {α : Type} (schema : Schema α) (required : List String) (path : String)
    (object : Node) :
    (Visit.of schema required path object).warnings = mismatches schema required path object :=
  rfl

theorem walkItems_eq_flatMap (path : String) (object : Node) :
    walkItems path object = (itemsVisits path object).flatMap Visit.warnings := by
  unfold walkItems itemsVisits
  cases object.member? "items" with
  | none => rfl
  | some items => simp [warnings_of]

/-- Parts of a list are walked through one after the other. -/
theorem ofParts_eq_flatMap {α : Type} {about : Visit → List α} {walk : String → Node → List α}
    {visits : String → Node → List Visit}
    (h : ∀ path node, walk path node = (visits path node).flatMap about) (path : String)
    (parts : List Node) :
    ofParts path walk parts = (ofParts path visits parts).flatMap about := by
  simp only [ofParts, h, List.flatMap_assoc]

theorem walkParameter_eq_flatMap (path : String) (object : Node) :
    walkParameter path object = (parameterVisits path object).flatMap Visit.warnings := by
  simp [walkParameter, parameterVisits, warnings_of, walkItems_eq_flatMap]

theorem walkResponse_eq_flatMap (path : String) (object : Node) :
    walkResponse path object = (responseVisits path object).flatMap Visit.warnings := by
  simp [walkResponse, responseVisits, warnings_of]

theorem walkOperation_eq_flatMap (path : String) (object : Node) :
    walkOperation path object = (operationVisits path object).flatMap Visit.warnings := by
  simp [walkOperation, operationVisits, warnings_of, walkItems_eq_flatMap,
    ofParts_eq_flatMap walkParameter_eq_flatMap, ofParts_eq_flatMap walkResponse_eq_flatMap]

theorem walkApi_eq_flatMap (path : String) (object : Node) :
    walkApi path object = (apiVisits path object).flatMap Visit.warnings := by
  simp [walkApi, apiVisits, warnings_of, ofParts_eq_flatMap walkOperation_eq_flatMap]

theorem walkProperty_eq_flatMap (path : String) (object : Node) :
    walkProperty path object = (propertyVisits path object).flatMap Visit.warnings := by
  simp [walkProperty, propertyVisits, warnings_of, walkItems_eq_flatMap]

theorem walkModel_eq_flatMap (path : String) (object : Node) :
    walkModel path object = (modelVisits path object).flatMap Visit.warnings := by
  simp [walkModel, modelVisits, warnings_of, walkProperty_eq_flatMap, List.flatMap_assoc]

/-- **The walk** lists what is to be said about each object of the text. -/
theorem walk_eq_flatMap (root : Node) : walk root = (visits root).flatMap Visit.warnings := by
  simp [walk, visits, warnings_of, ofParts_eq_flatMap walkApi_eq_flatMap, walkModel_eq_flatMap,
    List.flatMap_assoc]

/-! ## Unknown members of one object -/

namespace Visit

variable {v : Visit} {first second key : String}

theorem unknown_injective (v : Visit) : Function.Injective v.unknown := by
  intro first second h
  exact congrArg Warning.field h

/-- All keys that are written are reported. -/
theorem mem_of_mem_writtenKeys (h : key ∈ v.writtenKeys) :
    key ∈ (v.object.members.map (·.1)).filter (· ∉ v.fields) := by
  rw [writtenKeys, List.mem_filter, Written.mem_keys_settle] at h
  rw [List.mem_filter]
  exact h

/-- The warnings about required members come before those about unknown ones, and are none of
them. -/
theorem filter_warnings (v : Visit) :
    v.warnings.filter (·.issue = .unknown) = (v.object.unknownKeys v.fields).map v.unknown := by
  have hmissing : ∀ keys : List String, (keys.map v.missing).filter (·.issue = .unknown) = [] := by
    intro keys
    simp [missing, List.filter_eq_nil_iff]
  have hunknown : ∀ keys : List String,
      (keys.map v.unknown).filter (·.issue = .unknown) = keys.map v.unknown := by
    intro keys
    simp [unknown, List.filter_eq_self]
  rw [warnings, List.filter_append, hmissing, hunknown, List.nil_append]

/-- One unknown member is reported before another one if it comes before it in the list of
keys. -/
theorem unknown_sublist_warnings_iff :
    [v.unknown first, v.unknown second].Sublist v.warnings ↔
      [first, second].Sublist (v.object.unknownKeys v.fields) := by
  constructor
  · intro h
    have hfilter := h.filter (·.issue = .unknown)
    rw [filter_warnings] at hfilter
    obtain ⟨keys, hkeys, hmap⟩ := List.sublist_map_iff.mp hfilter
    have heq : [first, second] = keys := by
      apply List.map_injective_iff.mpr v.unknown_injective
      rw [← hmap]
      rfl
    rwa [heq]
  · intro h
    exact (h.map v.unknown).trans (List.sublist_append_right _ _)

/-- **Of two unknown members** of an object, the one written first is reported first exactly if its
key has the lesser bytes. -/
theorem unknown_sublist_iff (h : [first, second].Sublist v.writtenKeys) :
    [v.unknown first, v.unknown second].Sublist v.warnings ↔
      Text.bytes first < Text.bytes second := by
  have hfirst := mem_of_mem_writtenKeys (h.subset List.mem_cons_self)
  have hsecond := mem_of_mem_writtenKeys (h.subset (List.mem_cons_of_mem _ List.mem_cons_self))
  rw [unknown_sublist_warnings_iff]
  exact Text.pair_sublist_inByteOrder_iff hfirst hsecond

end Visit

end Declaration

/-! ## Unknown members in a document -/

namespace Document

open Json

/-- **The warnings about a document** are those about its objects, one after the other. Of two
unknown members of one object, the one written first is reported first exactly if its key has the
lesser bytes; so the unknown members of an object are reported in the order of the text exactly if
they are written in the order of their bytes. -/
theorem unknown_inTextOrder_iff {text : String} {document : Document}
    (h : parse text = .ok document) :
    document.warnings =
        (Declaration.visits (TextTree.read (plain text)).root).flatMap (·.warnings) ∧
      ∀ v ∈ Declaration.visits (TextTree.read (plain text)).root,
        (∀ first second, [first, second].Sublist v.writtenKeys →
          ([v.unknown first, v.unknown second].Sublist v.warnings ↔
            Text.bytes first < Text.bytes second)) ∧
        ((∀ first second, [first, second].Sublist v.writtenKeys →
            [v.unknown first, v.unknown second].Sublist v.warnings) ↔
          v.writtenKeys.Pairwise fun first second => Text.bytes first < Text.bytes second) := by
  refine ⟨?_, fun v _ => ⟨fun first second => Declaration.Visit.unknown_sublist_iff, ?_⟩⟩
  · rw [warnings_of_parse h, Declaration.walk_eq_flatMap]
  · rw [List.pairwise_iff_forall_sublist]
    constructor
    · intro hordered first second hwritten
      exact (Declaration.Visit.unknown_sublist_iff hwritten).mp (hordered first second hwritten)
    · intro hbytes first second hwritten
      exact (Declaration.Visit.unknown_sublist_iff hwritten).mpr (hbytes hwritten)

/-- A text with three unknown members beside the groups. -/
def threeUnknownText : String :=
  "\x7b\"zeta\":1,\"alpha\":2,\"beta\":3,\"apis\":[\x7b\"path\":\"/pets\"\x7d]\x7d"

/-- The declaration in the text. -/
def threeUnknownVisit : Declaration.Visit :=
  .of Declaration.schema [] "" (TextTree.read (plain threeUnknownText)).root

theorem writtenKeys_threeUnknown : threeUnknownVisit.writtenKeys = ["zeta", "alpha", "beta"] := by
  decide +kernel

theorem parse_threeUnknown : ∃ document, parse threeUnknownText = .ok document := by
  have hfound : (parse threeUnknownText).toOption.isSome = true := by decide +kernel
  cases hparse : parse threeUnknownText with
  | error failure =>
    rw [hparse] at hfound
    cases hfound
  | ok document => exact ⟨document, rfl⟩

/-- Two of the members are reported in the order in which they are written, and all three are
not. -/
theorem unknown_inTextOrder_iff_threeUnknown : ∃ document, parse threeUnknownText = .ok document ∧
    threeUnknownVisit ∈ Declaration.visits (TextTree.read (plain threeUnknownText)).root ∧
    ["alpha", "beta"].Sublist threeUnknownVisit.writtenKeys ∧
    [threeUnknownVisit.unknown "alpha", threeUnknownVisit.unknown "beta"].Sublist
      threeUnknownVisit.warnings ∧
    ¬ ∀ first second, [first, second].Sublist threeUnknownVisit.writtenKeys →
      [threeUnknownVisit.unknown first, threeUnknownVisit.unknown second].Sublist
        threeUnknownVisit.warnings := by
  obtain ⟨document, hparse⟩ := parse_threeUnknown
  have hvisit : threeUnknownVisit ∈
      Declaration.visits (TextTree.read (plain threeUnknownText)).root := List.mem_cons_self
  obtain ⟨hpair, hall⟩ := (unknown_inTextOrder_iff hparse).2 _ hvisit
  rw [writtenKeys_threeUnknown] at hpair hall ⊢
  have hwritten : ["alpha", "beta"].Sublist ["zeta", "alpha", "beta"] := by decide
  refine ⟨document, hparse, hvisit, hwritten, (hpair _ _ hwritten).mpr (by decide +kernel), ?_⟩
  rw [hall]
  decide +kernel

/-- The member that is written first is reported last. -/
theorem unknown_zeta_reportedLast :
    (parse threeUnknownText).toOption.map (·.warnings) =
        some [⟨"", "alpha", .unknown⟩, ⟨"", "beta", .unknown⟩, ⟨"", "zeta", .unknown⟩] ∧
      ["zeta", "alpha"].Sublist threeUnknownVisit.writtenKeys ∧
      ¬ [threeUnknownVisit.unknown "zeta", threeUnknownVisit.unknown "alpha"].Sublist
        threeUnknownVisit.warnings := by
  have hwritten : ["zeta", "alpha"].Sublist threeUnknownVisit.writtenKeys := by
    rw [writtenKeys_threeUnknown]
    decide
  refine ⟨by decide +kernel, hwritten, ?_⟩
  rw [Declaration.Visit.unknown_sublist_iff hwritten]
  decide +kernel

end Document

end Stencil
