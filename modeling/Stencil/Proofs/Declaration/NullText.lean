import Stencil.Proofs.Declaration.Parts
import Stencil.Proofs.Declaration.PlainReferences

/-!
# Nulls put into a text

A null is put in front of the members of an object that is read as a structure, for a field that the
object has not. The text then holds the same document, or none as before.

## Main results

* `plainReferences_nullMember`: a null member in a text with plain references
* `Document.parse_null_as_absent`: null is read as if the member were absent
-/

namespace Stencil

open Json

/-! ## Texts -/

/-- What is in front of a character of no reference and what is behind it are passed over apart. -/
theorem plainReferences_append_cons {c : Char} (h : c ∉ marked 1) (cs ds : List Char) :
    plainReferences (cs ++ c :: ds) = plainReferences cs ++ c :: plainReferences ds := by
  -- A word without the character that stands at the front ends in front of the character.
  have hopens : ∀ (word cs : List Char), c ∉ word → word <+: cs ++ c :: ds → word <+: cs := by
    intro word
    induction word with
    | nil => exact fun cs _ _ => List.nil_prefix
    | cons d word ih =>
      intro cs hword hstarts
      obtain ⟨hd, hword⟩ := not_or.mp (mt List.mem_cons.mpr hword)
      cases cs with
      | nil => exact absurd (List.cons_prefix_cons.mp hstarts).1.symm hd
      | cons e cs =>
        obtain ⟨rfl, htail⟩ := List.cons_prefix_cons.mp hstarts
        exact List.cons_prefix_cons.mpr ⟨rfl, ih cs hword htail⟩
  induction cs using induction_on_references with
  | nil =>
    refine plainReferences_cons fun hstarts => ?_
    exact absurd (hopens (marked 1) [] h hstarts) (by decide)
  | reference rest ih =>
    rw [List.append_assoc, plainReferences_marked, plainReferences_marked, ih, List.append_assoc]
  | cons d rest hne ih =>
    rw [List.cons_append, plainReferences_cons hne, List.cons_append, ← ih]
    exact plainReferences_cons fun hstarts => hne (hopens (marked 1) (d :: rest) h hstarts)

theorem endsObject_plainReferences (cs : List Char) :
    endsObject (plainReferences cs) = endsObject cs := by
  induction cs using induction_on_references with
  | nil => rfl
  | reference rest ih => rfl
  | cons c rest hne ih =>
    rw [plainReferences_cons hne]
    unfold endsObject at ih ⊢
    by_cases hspace : isSpace c = true
    · rw [List.dropWhile_cons_of_pos hspace, List.dropWhile_cons_of_pos hspace, ih]
    · rw [List.dropWhile_cons_of_neg hspace, List.dropWhile_cons_of_neg hspace]
      rfl

theorem plainReferences_nullMember {key written : String} (h : Document.plain written = key)
    (back : List Char) : plainReferences (nullMember written back ++ back) =
      nullMember key (plainReferences back) ++ plainReferences back := by
  have hquote : '"' ∉ marked 1 := by decide
  have hkey : plainReferences written.toList = key.toList := by rw [← h, Document.toList_plain]
  have hnull : ∀ rest, plainReferences (['"'] ++ written.toList ++ "\":null".toList ++ rest) =
      ['"'] ++ key.toList ++ "\":null".toList ++ plainReferences rest := by
    intro rest
    calc plainReferences (['"'] ++ written.toList ++ "\":null".toList ++ rest)
        = plainReferences ([] ++ '"' :: (written.toList ++ '"' :: (":null".toList ++ rest))) := by
          rw [List.append_assoc, List.append_assoc]
          rfl
      _ = '"' :: (key.toList ++ '"' :: (":null".toList ++ plainReferences rest)) := by
          rw [plainReferences_append_cons hquote, plainReferences_append_cons hquote, hkey]
          rfl
      _ = ['"'] ++ key.toList ++ "\":null".toList ++ plainReferences rest := by
          rw [List.append_assoc, List.append_assoc]
          rfl
  unfold nullMember
  rw [endsObject_plainReferences]
  split
  · rw [List.append_nil, List.append_nil, hnull]
  · have hcomma := plainReferences_append_cons (show ',' ∉ marked 1 by decide) [] back
    rw [List.append_assoc, hnull, List.append_assoc _ [',']]
    exact congrArg _ hcomma

namespace Document

/-- **Null is read as if the member were absent.** A text that is widened by nulls holds the same
declaration, and so the same document or none. One way to widen it is to put a null in front of the
members of an object that is read as one of the structures, for a field that no member of it has. -/
theorem parse_null_as_absent {text : String} {declaration : Declaration}
    (h : Declaration.read (plain text) = .ok declaration) :
    (∀ {widened : String}, Declaration.Widens (TextTree.read (plain text)).root
        (TextTree.read (plain widened)).root → (TextTree.read (plain widened)).trailing = none →
      Declaration.read (plain widened) = .ok declaration ∧ parse widened = parse text) ∧
    (∀ {front back : List Char} {part : Declaration.Part} {members : List Member}
        {key written widened : String}, text.toList = front ++ '\x7b' :: back →
      Declaration.Holds (TextTree.read (plain text)).root part
        (.object (({} : Place).afterAll (plainReferences front)) members) →
      key ∈ part.fields → key ∉ Declaration.Schema.keysOf members → plain written = key →
      widened.toList = front ++ '\x7b' :: (nullMember written back ++ back) →
      Declaration.read (plain widened) = .ok declaration ∧ parse widened = parse text) := by
  refine ⟨fun hwidens htrailing => parse_widened h hwidens htrailing, ?_⟩
  intro front back part members key written widened htext hholds hkey habsent hwritten hwidened
  -- The text that is read is the given one with plain references, on both sides of the brace.
  have hbrace : '\x7b' ∉ marked 1 := by decide
  have hplain : (plain text).toList = plainReferences front ++ '\x7b' :: plainReferences back := by
    rw [toList_plain, htext, plainReferences_append_cons hbrace]
  have hplainWidened : (plain widened).toList = plainReferences front ++
      '\x7b' :: (nullMember key (plainReferences back) ++ plainReferences back) := by
    rw [toList_plain, hwidened, plainReferences_append_cons hbrace,
      plainReferences_nullMember hwritten]
  have hliteral := Declaration.Part.isLiteral_of_mem_fields part key hkey
  have hnodup := TextTree.nodup_starts (plain text)
  have hstart : ({} : Place).afterAll (plainReferences front) ∈
      (TextTree.read (plain text)).root.starts := by
    have hobject := hholds.starts_sublist
    rw [Node.starts_object] at hobject
    exact hobject.subset List.mem_cons_self
  -- Its tree gains the null in this object, and is widened by it as a whole.
  have hgains := TextTree.gainsNull hliteral hplain hplainWidened hstart
  exact parse_widened h (hholds.widens_of_absent hnodup hkey habsent hgains.root)
    (hgains.trailing.mp (isJson_iff.mp (Declaration.isJson_of_read h)).2)

/-- The text of a declaration with an operation that answers with an array, up to the items of the
array. -/
def beforeItems : List Char := "\x7b\"apis\":[\x7b\"operations\":[\x7b\"items\":".toList

/-- The rest of this text. -/
def behindItems : List Char := "\x7d\x7d]\x7d]\x7d".toList

/-- Such a declaration, with the given members of the items. -/
def itemsText (members : List Char) : String :=
  String.ofList (beforeItems ++ '\x7b' :: (members ++ behindItems))

/-- A member of the items. -/
def typeMember : List Char := "\"type\":\"pet\"".toList

/-- The tree of such a declaration. -/
def itemsTree (members : List Member) (atItems atOperations atApis : Place) : Node :=
  .object {} [.entry "apis" ⟨1, 7⟩ (.list ⟨1, 8⟩ [
    .object ⟨1, 9⟩ [.entry "operations" ⟨1, 22⟩ (.list ⟨1, 23⟩ [
      .object ⟨1, 24⟩ [.entry "items" ⟨1, 32⟩ (.object ⟨1, 33⟩ members) atItems]])
      atOperations]]) atApis]

/-- The tree of the member of the items. -/
def typeEntry (atValue : Place) : Member :=
  .entry "type" ⟨1, 40⟩ (.scalar (.text "pet") ⟨1, 46⟩) atValue

open Declaration Node in
theorem parse_null_as_absent_items :
    (parse (itemsText typeMember)).isOk = true ∧
      parse (itemsText (typeMember ++ ",\"$ref\":null".toList)) = parse (itemsText typeMember) ∧
      parse (itemsText ("\"$ref\":null,".toList ++ typeMember)) =
        parse (itemsText typeMember) := by
  have htree : (TextTree.read (plain (itemsText typeMember))).root =
      itemsTree [typeEntry ⟨1, 47⟩] ⟨1, 48⟩ ⟨1, 50⟩ ⟨1, 52⟩ := by
    rfl
  have hlastTree :
      (TextTree.read (plain (itemsText (typeMember ++ ",\"$ref\":null".toList)))).root =
        itemsTree [typeEntry ⟨1, 46⟩, .entry "ref" ⟨1, 52⟩ (.scalar .null ⟨1, 57⟩) ⟨1, 58⟩]
          ⟨1, 59⟩ ⟨1, 61⟩ ⟨1, 63⟩ := by
    rfl
  obtain ⟨declaration, hread⟩ :
      ∃ declaration, Declaration.read (plain (itemsText typeMember)) = .ok declaration :=
    ⟨_, rfl⟩
  obtain ⟨hlast, hfirst⟩ := parse_null_as_absent hread
  rw [htree] at hlast hfirst
  refine ⟨rfl, ?_, ?_⟩
  · -- The null is the last member, so that the trees are compared level by level.
    refine (hlast ?_ rfl).2
    rw [hlastTree]
    refine .within (.cons (.entry ?_) .nil)
    change WidensItems Api.Widens _ _
    refine .within (.cons (.within (.cons (.entry ?_) .nil)) .nil)
    change WidensItems Operation.Widens _ _
    refine .within (.cons (.within (.cons (.entry ?_) .nil)) .nil)
    change Items.Widens _ _
    refine @Node.Widens.null _ _ _ _ [_] [_] [] [] _ _ _ _ (by decide) (by decide) ?_ .nil
    exact .cons (.entry (show Node.Alike Eq _ _ from .scalar (.text rfl))) .nil
  · -- The null is the first member.
    have hplace : ({} : Place).afterAll (plainReferences beforeItems) = ⟨1, 33⟩ := by
      decide +kernel
    have hfront : (itemsText typeMember).toList =
        beforeItems ++ '\x7b' :: (typeMember ++ behindItems) := String.toList_ofList
    have hwidened : (itemsText ("\"$ref\":null,".toList ++ typeMember)).toList = beforeItems ++
        '\x7b' :: (nullMember "$ref" (typeMember ++ behindItems) ++ (typeMember ++ behindItems)) :=
      String.toList_ofList
    have hwritten : plain "$ref" = "ref" := by decide +kernel
    refine (@hfirst _ _ .items [typeEntry ⟨1, 47⟩] _ _ _ hfront ?_ (by decide) (by decide) hwritten
      hwidened).2
    rw [hplace]
    exact .operationItems (.operation (.api .declaration (.head _) (.head _)) (.head _) (.head _))
      (.head _)

end Document

end Stencil
