import Stencil.Proofs.Declaration.ExplicitNull
import Stencil.Proofs.Declaration.ReferenceFields
import Stencil.Proofs.Declaration.ReportedPlaces
import Stencil.Proofs.Json.Lexemes

/-!
# Texts that are written differently

The same members, items, keys, texts and numbers can be written with other blanks and other escapes.
A document does not depend on how its text is written, except for references: only a `$ref` none of
whose characters is escaped becomes one.

## Main definitions

* `SameReferences text other`: the same references are written out
* `TextTree.withReferences text`: the tree of a text, in which the references that are written out
  have no dollar signs

## Main results

* `plain_alike`: trees of texts with plain references
* `Token.withoutDollars_reference`: a string `$ref` becomes `ref` if it is written out
* `Document.parse_of_sameJson`: the same document, or a failure for the same reason
-/

namespace Stencil

namespace Json

/-- The same references are written out, at the same positions of the same tokens. -/
def SameReferences (text other : String) : Prop :=
  (Token.scanReferences other).map Prod.snd = (Token.scanReferences text).map Prod.snd

instance (text other : String) : Decidable (SameReferences text other) :=
  inferInstanceAs (Decidable (_ = _))

/-! ## The texts with plain references -/

/-- No `$ref` breaks anything off in a JSON text. -/
theorem IsJson.unbroken {text : String} (h : IsJson text) :
    Progress.between.Unbroken {} text.toList :=
  @Token.unbroken_of_clean .between trivial _ _ h.clean

/-- The tree of a JSON text with plain references has no fault. -/
theorem IsJson.sound_plain {text : String} (h : IsJson text) :
    (TextTree.read (Document.plain text)).Sound :=
  (TextTree.read_alike h.unbroken.unescaped).sound_iff.mp (isJson_iff.mp h)

/-- A token that is moved and whose text is changed in one way. -/
theorem Lexeme.recast_alike (φ ψ : Place → Place) (g : String → String) (lexeme : Lexeme) :
    (lexeme.recast φ g).Alike Eq (lexeme.recast ψ g) := by
  cases lexeme with
  | broken fault isText => exact .broken
  | scalar value => exact .scalar (.refl (fun _ => rfl) _)
  | beginObject | endObject | beginList | endList | colon | comma | stray | finish =>
    exact .refl (fun _ => rfl) _

theorem Token.plain_tokensAlike {cs ds : List Char} {noted noted' : List (Token × List Nat)}
    (hlexemes : (noted'.map Prod.fst).map Token.lexeme = (noted.map Prod.fst).map Token.lexeme)
    (hpositions : noted'.map Prod.snd = noted.map Prod.snd) :
    TokensAlike Eq (noted.map (plainIn cs)) (noted'.map (plainIn ds)) := by
  induction noted generalizing noted' with
  | nil =>
    obtain rfl := List.map_eq_nil_iff.mp hpositions
    exact .nil
  | cons first noted ih =>
    cases noted' with
    | nil => cases hpositions
    | cons first' noted' =>
      obtain ⟨⟨lexeme, start, stop⟩, positions⟩ := first
      obtain ⟨⟨lexeme', start', stop'⟩, positions'⟩ := first'
      obtain ⟨rfl, hothers⟩ := List.cons.inj hlexemes
      obtain ⟨rfl, hbehind⟩ := List.cons.inj hpositions
      exact .cons (Lexeme.recast_alike _ _ _ _) (ih hothers hbehind)

/-- **Trees of texts with plain references** are the same if the texts are but for the way in which
they are written and the same references are written out. -/
theorem plain_alike {text other : String} (hsame : SameJson text other)
    (hreferences : SameReferences text other) :
    (TextTree.read (Document.plain text)).Alike Eq (TextTree.read (Document.plain other)) := by
  refine TextTree.grow_alike ?_
  rw [(Token.scan_plain hsame.left.unbroken).1, (Token.scan_plain hsame.right.unbroken).1]
  refine Token.plain_tokensAlike ?_ hreferences
  rw [Token.map_fst_scanReferences, Token.map_fst_scanReferences]
  exact (sameJson_iff.mp hsame).2

/-! ## References that are written out -/

/-- A token without the dollar signs of the references that are written out in it. -/
def Token.withoutDollars (noted : Token × List Nat) : Token :=
  noted.1.recast id (recastText (withoutAt noted.2))

/-- The tree of a text, in which the references that are written out have no dollar signs. -/
def TextTree.withReferences (text : String) : TextTree :=
  TextTree.grow [] .value ((Token.scanReferences text).map Token.withoutDollars)

/-- The tree of the text with plain references is that of the text, in which the references have no
dollar signs. -/
theorem TextTree.plain_alike_withReferences {text : String}
    (h : Progress.between.Unbroken {} text.toList) :
    (TextTree.read (Document.plain text)).Alike Eq (TextTree.withReferences text) := by
  refine TextTree.grow_alike ?_
  rw [(Token.scan_plain h).1, TokensAlike, List.forall₂_map_left_iff, List.forall₂_map_right_iff,
    List.forall₂_same]
  exact fun noted _ => Lexeme.recast_alike _ _ _ _

/-- `$ref` stays as it is or becomes `ref`. -/
theorem eq_or_of_plainerText_dollar {s : String} (h : PlainerText "$ref" s) :
    s = "$ref" ∨ s = "ref" := by
  have hchars : s.toList = ['$', 'r', 'e', 'f'] ∨ s.toList = ['r', 'e', 'f'] := by
    revert h
    unfold PlainerText
    generalize s.toList = ds
    rw [show "$ref".toList = ['$', 'r', 'e', 'f'] from rfl]
    intro h
    cases h with
    | cons _ hrest =>
      have hkept := hrest.eq_or.resolve_right fun hdollar => absurd hdollar.1 (by decide)
      exact Or.inl (congrArg _ hkept)
    | reference hrest =>
      have hkept := hrest.eq_or.resolve_right fun hdollar => absurd hdollar.1 (by decide)
      exact Or.inr (congrArg (marked 0 ++ ·) hkept)
  exact hchars.imp (fun h => String.toList_inj.mp h) fun h => String.toList_inj.mp h

/-- A dollar sign in front is kept unless a reference is noted there. -/
theorem dollar_mem_withoutAt_iff {positions : List Nat} {word : List Char} (h : '$' ∉ word) :
    '$' ∈ withoutAt positions (word ++ ['$']) ↔ 0 ∉ positions := by
  induction word with
  | nil => by_cases hfront : 0 ∈ positions <;> simp [withoutAt, hfront]
  | cons c word ih =>
    obtain ⟨hc, hword⟩ := not_or.mp (mt List.mem_cons.mpr h)
    rw [List.cons_append, withoutAt, ← ih hword]
    split
    · rfl
    · exact List.mem_cons.trans (or_iff_right hc)

namespace Token

variable {text : String} {noted : Token × List Nat} {s : String}

/-- Strings lose nothing but dollar signs in front of `ref`. -/
theorem plainerText_withoutDollars (h : Progress.between.Unbroken {} text.toList)
    (hnoted : noted ∈ scanReferences text) (hs : noted.1.lexeme = .scalar (.text s)) :
    PlainerText s (recastText (withoutAt noted.2) s) := by
  have halike := scan_alike h.unescaped
  rw [(scan_plain h).1, ← map_fst_scanReferences, List.forall₂_map_left_iff,
    List.forall₂_map_right_iff, List.forall₂_same] at halike
  have hlexeme := (halike noted hnoted).lexeme LosesDollars.refl
  rw [plainIn, recast, hs] at hlexeme
  cases hlexeme with
  | scalar hscalar =>
    cases hscalar with
    | text hplainer => exact hplainer

/-- **A string `$ref`** becomes `ref` if it is written out, and stays as it is otherwise. -/
theorem withoutDollars_reference (h : Progress.between.Unbroken {} text.toList)
    (hnoted : noted ∈ scanReferences text) (hs : noted.1.lexeme = .scalar (.text "$ref")) :
    (withoutDollars noted).lexeme =
      .scalar (.text (if 0 ∈ noted.2 then "ref" else "$ref")) := by
  have hlexeme : (withoutDollars noted).lexeme =
      .scalar (.text (recastText (withoutAt noted.2) "$ref")) := by
    rw [withoutDollars, recast, hs]
    rfl
  have hdollar : '$' ∈ (recastText (withoutAt noted.2) "$ref").toList ↔ 0 ∉ noted.2 := by
    rw [recastText, String.toList_ofList, List.mem_reverse]
    exact @dollar_mem_withoutAt_iff noted.2 ['f', 'e', 'r'] (by decide)
  rw [hlexeme]
  rcases eq_or_of_plainerText_dollar (plainerText_withoutDollars h hnoted hs) with heq | heq
  · rw [heq] at hdollar ⊢
    rw [if_neg (hdollar.mp (by decide))]
  · rw [heq] at hdollar ⊢
    rw [if_pos (not_not.mp (mt hdollar.mpr (by decide)))]

/-- No other string becomes `ref`. -/
theorem eq_of_withoutDollars_eq_ref (h : Progress.between.Unbroken {} text.toList)
    (hnoted : noted ∈ scanReferences text) (hs : noted.1.lexeme = .scalar (.text s))
    (href : (withoutDollars noted).lexeme = .scalar (.text "ref")) : s = "ref" ∨ s = "$ref" := by
  have hplainer := plainerText_withoutDollars h hnoted hs
  rw [withoutDollars, recast, hs] at href
  have heq : recastText (withoutAt noted.2) s = "ref" :=
    Scalar.text.inj (Lexeme.scalar.inj href)
  rw [heq] at hplainer
  exact eq_of_plainerText_ref hplainer

end Token

end Json

namespace Declaration

open Json

/-! ## Complaints about both texts -/

/-- The same complaint but for its place, or none. -/
def SameReason (x y : Option Complaint) : Prop := y.map Complaint.reason = x.map Complaint.reason

instance : Verdict (fun _ _ => True) Eq SameReason where
  ok := rfl
  excused h := nomatch h
  waived h := nomatch h
  settled _ h := by simpa [SameReason, Function.comp_def, Complaint.settledAt] using h
  same _ _ _ _ := rfl
  wrongType expected hvalue _ := by rw [hvalue.eq]; rfl

/-- The keys are the same, so that none becomes a reference. -/
instance (root root' : Node) : ReferenceVerdict root root' (fun _ _ => True) Eq SameReason where
  key h := Or.inl h.symm
  becomes _ _ _ hshifted hne := by
    cases hshifted with
    | entry hkey => exact absurd hkey hne
  second _ _ _ hfirst hsecond hne := by
    cases hfirst with
    | entry hfirst =>
      cases hsecond with
      | entry hkey => exact absurd hne (not_or.mpr ⟨not_not.mpr hfirst, not_not.mpr hkey⟩)

/-- **Declarations in the same trees** are the same, or there is a fault for the same reason. -/
theorem ofTree_of_alike {tree tree' : TextTree} (h : tree.Alike Eq tree') (hsound : tree.Sound) :
    ofTree tree' = ofTree tree ∨ ∃ fault fault', ofTree tree = .error fault ∧
      ofTree tree' = .error fault' ∧ fault'.reason = fault.reason := by
  cases hread : schema.read tree.root with
  | ok declaration =>
    have hread' := keeps.read_eq_ok (keeps.same h.root) hread
    refine Or.inl ?_
    unfold ofTree
    rw [hread, hread', hsound.2, h.trailing.mp hsound.2]
  | error c =>
    -- The other tree is complained about too, though maybe at another place.
    have hreason : SameReason (complaint? (schema.read tree.root))
        (complaint? (schema.read tree'.root)) :=
      schema_agrees.agrees ⟨.declaration, .declaration⟩ (h.root.shifted_of_sound hsound.1)
    rw [hread] at hreason
    obtain ⟨c', hright, hc'⟩ := Option.map_eq_some_iff.mp hreason
    refine Or.inr ⟨c.toFault, c'.toFault, ?_, ofTree_of_complaint? hright, hc'⟩
    rw [ofTree, hread]

end Declaration

namespace Document

open Json

/-- **A document** does not depend on how the strings of its text are escaped and which blanks are
used, as long as the same references are written out: it is the same one, or there is none for the
same reason. A string `$ref` becomes `ref` if none of its characters is escaped and stays as it is
otherwise, and no other string becomes `ref`. The references in the properties and the element
descriptions of the document are the members `ref` of their objects then, and a member `$ref` that
has stayed is reported like any other one that is not known. -/
theorem parse_of_sameJson {text other : String} (hsame : SameJson text other)
    (hreferences : SameReferences text other) :
    (parse other = parse text ∨ ∃ fault fault' : Fault,
        parse text = .error (.invalidJson fault.message) ∧
        parse other = .error (.invalidJson fault'.message) ∧ fault'.reason = fault.reason) ∧
      (∀ noted ∈ Token.scanReferences text,
        (noted.1.lexeme = .scalar (.text "$ref") → (Token.withoutDollars noted).lexeme =
          .scalar (.text (if 0 ∈ noted.2 then "ref" else "$ref"))) ∧
        ∀ s, noted.1.lexeme = .scalar (.text s) →
          (Token.withoutDollars noted).lexeme = .scalar (.text "ref") → s = "ref" ∨ s = "$ref") ∧
      ∀ document, parse text = .ok document →
        document.declaration.references =
            Declaration.referencesIn (TextTree.withReferences text).root ∧
          document.warnings = Declaration.walk (TextTree.withReferences text).root := by
  have hunbroken := hsame.left.unbroken
  refine ⟨?_, fun noted hnoted => ⟨?_, fun s => ?_⟩, fun document hparse => ?_⟩
  · rcases Declaration.ofTree_of_alike (plain_alike hsame hreferences) hsame.left.sound_plain with
      heq | ⟨fault, fault', hfault, hfault', hreason⟩
    · refine Or.inl ?_
      rw [parse, parse, Declaration.read, Declaration.read, heq]
    · exact Or.inr ⟨fault, fault', parse_of_read_eq_error hfault, parse_of_read_eq_error hfault',
        hreason⟩
  · exact Token.withoutDollars_reference hunbroken hnoted
  · exact Token.eq_of_withoutDollars_eq_ref hunbroken hnoted
  · -- The document is read of the tree whose references have no dollar signs, too.
    have hread : Declaration.schema.read (TextTree.withReferences text).root =
        .ok document.declaration :=
      Declaration.keeps.read_eq_ok
        (Declaration.keeps.same (TextTree.plain_alike_withReferences hunbroken).root)
        (read_root_of_parse hparse)
    rw [(read_of_parse hparse).2]
    exact ⟨Declaration.references_of_read hread, Declaration.warnings_of_read hread⟩

/-- A text with a reference. -/
def referenceText : String := propertyText "\"$ref\":\"User\""

/-- The same with more blanks and an escaped letter. -/
def spacedText : String := propertyText "\n\"$ref\" : \"\\u0055ser\""

theorem parse_referenceText : ∃ document, parse referenceText = .ok document := by
  have hfound : (parse referenceText).toOption.isSome = true := by decide +kernel
  cases hparse : parse referenceText with
  | error failure =>
    rw [hparse] at hfound
    cases hfound
  | ok document => exact ⟨document, rfl⟩

theorem parse_of_sameJson_spaced :
    SameJson referenceText spacedText ∧ SameReferences referenceText spacedText ∧
      ∃ document, parse referenceText = .ok document ∧ parse spacedText = .ok document ∧
        document.declaration.references = [⟨"models.Pet.properties.owner", some "User"⟩] := by
  have hsame : SameJson referenceText spacedText := by decide +kernel
  have hreferences : SameReferences referenceText spacedText := by decide +kernel
  obtain ⟨document, hdocument⟩ := parse_referenceText
  obtain ⟨hparse, -, hread⟩ := parse_of_sameJson hsame hreferences
  refine ⟨hsame, hreferences, document, hdocument, ?_, ?_⟩
  · rw [hdocument] at hparse
    exact hparse.resolve_right fun ⟨_, _, hfault, _⟩ => nomatch hfault
  · rw [(hread document hdocument).1]
    decide +kernel

/-- A reference with an escaped dollar sign is a member that is not known. -/
theorem parse_escapedDollar :
    SameJson referenceText (propertyText "\"\\u0024ref\":\"User\"") ∧
      (parse referenceText).toOption.map (·.warnings) = some [] ∧
      (parse (propertyText "\"\\u0024ref\":\"User\"")).toOption.map (·.warnings) =
        some [⟨"models.Pet.properties.owner", "$ref", .unknown⟩] := by
  decide +kernel

end Document

end Stencil
