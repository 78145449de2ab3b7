import Stencil.Proofs.Declaration.StructureVerdicts
import Stencil.Proofs.Declaration.WrittenReferences

/-!
# Where faults are reported

A document is read from the text with plain references, and so the place that is reported with a
fault is one in that text: on the same line as in the text itself, and as many columns further to
the left as there are `$ref`s in front of it on that line. The reason is the same, unless a
reference in front of the fault is complained about: a member `$ref` of a property or of an element
description becomes its reference, which has to be a text and may not be there twice.

## Main definitions

* `Reason.IsSyntax`: reasons for which a text is no JSON text
* `PlainAt text`: places of a text and of the text with plain references
* `ReferenceFault text`: faults that are about a member that becomes a reference
* `Tracks source`: what is complained about in both

## Main results

* `TextTree.read_shifted`: the trees of both texts
* `Document.parse_of_syntax_fault`: the fault that is reported for a text with a syntax fault
-/

namespace Stencil

/-- What loses no dollar sign is unchanged. -/
theorem LosesDollars.eq_or {cs ds : List Char} (h : LosesDollars cs ds) :
    ds = cs ∨ '$' ∈ cs ∧ marked 0 <:+: ds := by
  induction h with
  | nil => exact Or.inl rfl
  | cons c _ ih =>
    rcases ih with rfl | ⟨hdollar, hfound⟩
    · exact Or.inl rfl
    · exact Or.inr ⟨List.mem_cons_of_mem c hdollar, hfound.trans (List.suffix_cons c _).isInfix⟩
  | @reference cs ds _ _ =>
    exact Or.inr ⟨List.mem_cons_self, (List.prefix_append (marked 0) ds).isInfix⟩

/-- What becomes `ref` without a dollar sign was `ref` with one. -/
theorem eq_of_plainerText_ref {s : String} (h : PlainerText s "ref") : s = "ref" ∨ s = "$ref" := by
  have hshort : ∀ {cs ds : List Char}, LosesDollars cs ds → ds.length < 3 → cs = ds := by
    intro cs ds hloses hlength
    refine (hloses.eq_or.resolve_right fun hfound => ?_).symm
    exact absurd hfound.2.length_le (Nat.not_le.mpr hlength)
  have hchars : s.toList = ['r', 'e', 'f'] ∨ s.toList = '$' :: ['r', 'e', 'f'] := by
    revert h
    unfold PlainerText
    generalize s.toList = cs
    rw [show "ref".toList = ['r', 'e', 'f'] from rfl]
    intro h
    cases h with
    | cons _ hrest => exact Or.inl (congrArg _ (hshort hrest (by decide)))
    | reference hrest => exact Or.inr (congrArg _ (hshort hrest (by decide)))
  exact hchars.imp (fun h => String.toList_inj.mp h) fun h => String.toList_inj.mp h

namespace Json

namespace Reason

/-- The text is no JSON text, whatever was expected of its values. -/
def IsSyntax : Reason → Prop
  | wrongType _ _ | integerTooLarge _ | duplicateField _ | noVariant _ => False
  | _ => True

end Reason

/-! ## Trees of both texts -/

theorem plainPlace_zero (cs : List Char) : plainPlace cs {} = {} := by
  rw [plainPlace, Place.mk.injEq]
  exact ⟨rfl, Nat.zero_sub _⟩

theorem Token.recast_blank (cs : List Char) (noted : Token × List Nat) :
    (plainIn cs noted).recast id blank = noted.1.recast (plainPlace cs) blank := by
  obtain ⟨⟨lexeme, start, stop⟩, positions⟩ := noted
  cases lexeme with
  | scalar value => cases value <;> rfl
  | _ => rfl

/-- The places of a text and of the text with plain references. -/
def PlainAt (text : String) (place place' : Place) : Prop := place' = plainPlace text.toList place

/-- **The trees of a text and of the text with plain references** are the same, up to the columns
and the strings, also in their faults. -/
theorem TextTree.read_shifted {text : String} (h : Progress.between.Unbroken {} text.toList) :
    (TextTree.read text).Shifted (PlainAt text) PlainerText
      (TextTree.read (Document.plain text)) := by
  obtain ⟨htokens, hglances⟩ := Token.scan_plain h
  refine TextTree.Alike.shifted (TextTree.read_alike h.unescaped) ?_
  have hid : ∀ t ∈ Token.scan (Document.plain text), t.Glances id := fun _ _ => rfl
  have hplain := TextTree.grow_recast (g := blank) rfl hid [] .value
  have htext := TextTree.grow_recast (g := blank) (plainPlace_zero text.toList) hglances [] .value
  -- Without their texts the tokens are those of the text, at other places.
  have hsame : (Token.scan (Document.plain text)).map (Token.recast id blank) =
      (Token.scan text).map (Token.recast (plainPlace text.toList) blank) := by
    rw [htokens, ← Token.map_fst_scanReferences, List.map_map, List.map_map]
    exact List.map_congr_left fun noted _ => Token.recast_blank text.toList noted
  rw [List.map_nil, hsame] at hplain
  exact hplain.symm.trans htext

end Json

namespace Declaration

open Json

/-! ## Complaints about both texts -/

/-- The roots of a text and of the text with plain references. -/
def rootOf (text : String) : Node := (TextTree.read text).root

/-- A fault of the text with plain references that is about a reference. There is an object that is
read as a structure with a reference, `members` in the text and `members'` in the text with plain
references, and a member `$ref` of it becomes `ref`. -/
inductive ReferenceFault (text : String) : Fault → Prop
  /-- The value of the member is neither a text nor null. -/
  | noText {start start' members members' atKey value atValue value' atValue' found place} :
    Referring (rootOf text) (rootOf (Document.plain text)) (.object start members)
      (.object start' members') →
    .entry "$ref" atKey value atValue ∈ members →
    .entry "ref" (plainPlace text.toList atKey) value' atValue' ∈ members' →
    optional Declaration.text value = .error ⟨.wrongType found .text, some place⟩ →
    ReferenceFault text ⟨.wrongType found .text, plainPlace text.toList place⟩
  /-- The object has two references, at least one of which is `$ref` in the text. -/
  | second {start start' members members' first atFirst held atHeld held' atHeld' key atKey value
      atValue value' atValue'} :
    Referring (rootOf text) (rootOf (Document.plain text)) (.object start members)
      (.object start' members') →
    [.entry first atFirst held atHeld, .entry key atKey value atValue].Sublist members →
    [.entry "ref" (plainPlace text.toList atFirst) held' atHeld',
      .entry "ref" (plainPlace text.toList atKey) value' atValue'].Sublist members' →
    (first, key) ∈ [("ref", "$ref"), ("$ref", "ref"), ("$ref", "$ref")] →
    ReferenceFault text ⟨.duplicateField "ref", plainPlace text.toList atKey⟩

variable {source : String}

/-- What is complained about in a text and in the text with plain references: a reference on the
right, or nothing on both sides, or the same if it is a fault of the text. -/
def Tracks (source : String) (x y : Option Complaint) : Prop :=
  (∃ fault, ReferenceFault source fault ∧ y = some ⟨fault.reason, some fault.place⟩) ∨
    x = none ∧ y = none ∨
    ∃ c, x = some c ∧
      (c.reason.IsSyntax → y = some ⟨c.reason, c.place.map (plainPlace source.toList)⟩)

/-- The value of a reference has a fault on both sides, or is complained about on both sides or on
none. -/
theorem complaint?_reference {node node' : Node}
    (h : node.Shifted (PlainAt source) PlainerText node') :
    (∃ fault : Fault, complaint? (anything node) = some ⟨fault.reason, some fault.place⟩ ∧
        complaint? (optional text node') =
          some ⟨fault.reason, some (plainPlace source.toList fault.place)⟩) ∨
      (complaint? (anything node) = none ∧ complaint? (optional text node') = none) ∨
      ∃ found place, optional text node = .error ⟨.wrongType found .text, some place⟩ ∧
        complaint? (optional text node') =
          some ⟨.wrongType found .text, some (plainPlace source.toList place)⟩ := by
  cases h with
  | @broken fault fault' hfault =>
    obtain ⟨reason', place'⟩ := fault'
    obtain ⟨rfl, rfl⟩ : reason' = fault.reason ∧ place' = plainPlace source.toList fault.place :=
      ⟨hfault.reason_eq, hfault.place⟩
    exact Or.inl ⟨fault, rfl, rfl⟩
  | scalar hvalue hstop =>
    obtain rfl := hstop
    cases hvalue with
    | null | text => exact Or.inr (Or.inl ⟨rfl, rfl⟩)
    | boolean | number => exact Or.inr (Or.inr ⟨_, _, rfl, rfl⟩)
  | list hstart | object hstart =>
    obtain rfl := hstart
    exact Or.inr (Or.inr ⟨_, _, rfl, rfl⟩)

instance : Verdict (PlainAt source) PlainerText (Tracks source) where
  ok := Or.inr (Or.inl ⟨rfl, rfl⟩)
  excused h x := by
    rcases h with habout | ⟨-, hnone⟩ | ⟨c, hsome, -⟩
    · exact Or.inl habout
    · cases hnone
    · cases hsome
  waived {c} h y := by
    rcases h with ⟨fault, -, hsome⟩ | ⟨hnone, -⟩ | ⟨c', hc, hsame⟩
    · cases hsome
    · cases hnone
    · exact Or.inr (Or.inr ⟨c', hc, fun hkind => nomatch hsame hkind⟩)
  settled {place place' x y} hplace h := by
    obtain rfl := hplace
    rcases h with ⟨fault, habout, rfl⟩ | ⟨rfl, rfl⟩ | ⟨c, rfl, hsame⟩
    · exact Or.inl ⟨fault, habout, rfl⟩
    · exact Or.inr (Or.inl ⟨rfl, rfl⟩)
    · refine Or.inr (Or.inr ⟨_, rfl, fun hkind => ?_⟩)
      rw [hsame hkind]
      obtain ⟨reason, place'⟩ := c
      cases place' <;> rfl
  same reason place place' h := by
    refine Or.inr (Or.inr ⟨_, rfl, fun _ => ?_⟩)
    cases h with
    | none => rfl
    | some h =>
      obtain rfl := h
      rfl
  wrongType expected hvalue hstop := Or.inr (Or.inr ⟨_, rfl, fun h => h.elim⟩)

/-- A key that loses a dollar sign is no field before, and `ref` if it is one afterwards. -/
theorem eq_or_of_plainerText {key key' : String} (h : PlainerText key key') :
    key' = key ∨ ¬ IsPlainKey key ∧ (IsPlainKey key' → key' = "ref") := by
  rcases LosesDollars.eq_or h with heq | ⟨hdollar, hfound⟩
  · exact Or.inl (String.toList_inj.mp heq)
  · exact Or.inr ⟨fun hplain => hplain.1 hdollar, fun hplain => hplain.2 hfound⟩

instance : ReferenceVerdict (rootOf source) (rootOf (Document.plain source)) (PlainAt source)
    PlainerText (Tracks source) where
  key := eq_or_of_plainerText
  becomes hobject hmem hmem' hshifted hne := by
    cases hshifted with
    | entry hkey hatKey hvalue _ =>
      obtain rfl := hatKey
      obtain rfl := (eq_of_plainerText_ref hkey).resolve_left hne
      rcases complaint?_reference hvalue with
        ⟨fault, hleft, hright⟩ | ⟨hleft, hright⟩ | ⟨found, place, hleft, hright⟩
      · rw [hleft, hright]
        exact Or.inr (Or.inr ⟨_, rfl, fun _ => rfl⟩)
      · rw [hleft, hright]
        exact Or.inr (Or.inl ⟨rfl, rfl⟩)
      · rw [hright]
        exact Or.inl ⟨_, .noText hobject hmem hmem' hleft, rfl⟩
  second hobject hpair hpair' hfirst hsecond hne x := by
    cases hfirst with
    | entry hfirst hatFirst _ _ =>
      cases hsecond with
      | entry hkey hatKey _ _ =>
        obtain rfl := hatFirst
        obtain rfl := hatKey
        refine Or.inl ⟨_, .second hobject hpair hpair' ?_, rfl⟩
        rcases eq_of_plainerText_ref hfirst with rfl | rfl <;>
          rcases eq_of_plainerText_ref hkey with rfl | rfl
        · exact absurd hne (by decide)
        all_goals decide

theorem ofTree_of_complaint? {tree : TextTree} {c : Complaint}
    (h : complaint? (schema.read tree.root) = some c) : ofTree tree = .error c.toFault := by
  rw [ofTree, eq_error_of_complaint? h]

/-- **Declarations in trees of both texts**: a syntax fault of the one is that of the other, at its
place there, unless a reference is complained about. -/
theorem ofTree_shifted {tree tree' : TextTree}
    (hroot : tree.root = rootOf source) (hroot' : tree'.root = rootOf (Document.plain source))
    (h : tree.Shifted (PlainAt source) PlainerText tree') {fault : Fault}
    (hfault : ofTree tree = .error fault) (hkind : fault.reason.IsSyntax) :
    ∃ fault', ofTree tree' = .error fault' ∧
      (fault' = ⟨fault.reason, plainPlace source.toList fault.place⟩ ∨
        ReferenceFault source fault') := by
  have hat : HeldIn (rootOf source) (rootOf (Document.plain source)) .declaration tree.root
      tree'.root := by
    rw [hroot, hroot']
    exact ⟨.declaration, .declaration⟩
  have htracks : Tracks source (complaint? (schema.read tree.root))
      (complaint? (schema.read tree'.root)) := Agrees.agrees hat h.root
  rcases htracks with ⟨fault', habout, hright⟩ | ⟨hleft, hright⟩ | ⟨c, hleft, hsame⟩
  · exact ⟨fault', ofTree_of_complaint? hright, Or.inr habout⟩
  · -- Both are declarations, so the fault is behind the text.
    obtain ⟨declaration, hread⟩ := exists_of_complaint? hleft
    obtain ⟨declaration', hread'⟩ := exists_of_complaint? hright
    have htrailing := h.trailing
    unfold ofTree at hfault ⊢
    rw [hread] at hfault
    rw [hread']
    revert hfault htrailing
    generalize tree.trailing = behind, tree'.trailing = behind'
    intro hfault htrailing
    cases htrailing with
    | none => cases hfault
    | @some left right hshifted =>
      obtain rfl : left = fault := Except.error.inj hfault
      obtain ⟨reason', place'⟩ := right
      obtain ⟨rfl, rfl⟩ : reason' = left.reason ∧ place' = plainPlace source.toList left.place :=
        ⟨hshifted.reason_eq, hshifted.place⟩
      exact ⟨_, rfl, Or.inl rfl⟩
  · obtain rfl : c.toFault = fault :=
      Except.error.inj ((ofTree_of_complaint? hleft).symm.trans hfault)
    refine ⟨_, ofTree_of_complaint? (hsame hkind), Or.inl ?_⟩
    obtain ⟨reason, place⟩ := c
    cases place with
    | none =>
      -- A complaint without a place is reported at the start of the text.
      rw [Complaint.toFault, Complaint.toFault]
      exact congrArg _ (plainPlace_zero source.toList).symm
    | some place => rfl

end Declaration

namespace Document

open Json

theorem parse_of_read_eq_error {text : String} {fault : Fault}
    (h : Declaration.read (plain text) = .error fault) :
    parse text = .error (.invalidJson fault.message) := by
  rw [parse, h]

/-- **Places of syntax faults.** A fault that makes a text no JSON text is reported for the text
with plain references: for the same reason on the same line, as many columns further to the left as
there are `$ref`s in front of it on this line. Only if a property or an element description has a
member `$ref` that becomes its reference, and the value of this is neither a text nor null, or the
object has another reference in front of it or behind it, that may be reported instead: the value
of the wrong type at its place, or the second of the two references at the place of its key. -/
theorem parse_of_syntax_fault {text : String} {fault : Fault}
    (hunbroken : Progress.between.Unbroken {} text.toList)
    (hfault : Declaration.read text = .error fault) (hkind : fault.reason.IsSyntax) :
    ∃ fault' : Fault, Declaration.read (plain text) = .error fault' ∧
      parse text = .error (.invalidJson fault'.message) ∧
      (fault' = ⟨fault.reason, ⟨fault.place.line,
          fault.place.column - referencesBefore fault.place text.toList⟩⟩ ∨
        Declaration.ReferenceFault text fault') := by
  obtain ⟨fault', hfault', hor⟩ :=
    Declaration.ofTree_shifted rfl rfl (TextTree.read_shifted hunbroken) hfault hkind
  exact ⟨fault', hfault', parse_of_read_eq_error hfault', hor⟩

/-- A text with a comma behind its only reference. -/
def commaText : String := propertyText "\"$ref\":\"User\","

/-- The fault of this text. -/
def commaFault : Fault := ⟨.trailingComma, ⟨1, 82⟩⟩

theorem read_eq_trailingComma {text : String} {place : Place}
    (h : (match Declaration.read text with
      | .error ⟨.trailingComma, found⟩ => decide (found = place)
      | _ => false) = true) :
    Declaration.read text = .error ⟨.trailingComma, place⟩ := by
  split at h
  · rename_i hread
    rw [hread, of_decide_eq_true h]
  · cases h

theorem read_commaText : Declaration.read commaText = .error commaFault :=
  read_eq_trailingComma (by decide +kernel)

theorem parse_of_syntax_fault_comma :
    Progress.between.Unbroken {} commaText.toList ∧
      Declaration.read commaText = .error commaFault ∧ commaFault.reason.IsSyntax ∧
      ∃ fault' : Fault, Declaration.read (plain commaText) = .error fault' ∧
        parse commaText = .error (.invalidJson fault'.message) ∧
        (fault' = ⟨commaFault.reason, ⟨commaFault.place.line,
            commaFault.place.column - referencesBefore commaFault.place commaText.toList⟩⟩ ∨
          Declaration.ReferenceFault commaText fault') := by
  have hunbroken : Progress.between.Unbroken {} commaText.toList := by decide +kernel
  exact ⟨hunbroken, read_commaText, trivial,
    @parse_of_syntax_fault commaText commaFault hunbroken read_commaText trivial⟩

/-- The comma is reported one column in front of the one that it has in the text. -/
theorem parse_commaText :
    Declaration.read commaText = .error ⟨.trailingComma, ⟨1, 82⟩⟩ ∧
      parse commaText = .error (.invalidJson (Fault.message ⟨.trailingComma, ⟨1, 81⟩⟩)) ∧
      Fault.message ⟨.trailingComma, ⟨1, 81⟩⟩ ≠ Fault.message ⟨.trailingComma, ⟨1, 82⟩⟩ := by
  have hplain : Declaration.read (plain commaText) = .error ⟨.trailingComma, ⟨1, 81⟩⟩ :=
    read_eq_trailingComma (by decide +kernel)
  exact ⟨read_commaText, parse_of_read_eq_error hplain, by decide +kernel⟩

end Document

end Stencil
