import Mathlib.Data.List.Nodup
import Mathlib.Data.List.Pairwise
import Stencil.Proofs.Declaration.ExplicitNull
import Stencil.Proofs.Declaration.Positions
import Stencil.Proofs.Json.NullMember

/-!
# Nulls in the parts of a declaration

An object that is read as a structure is known by the place where it starts. So a null that is
gained there widens the whole tree, if its key is a field that the object has not.

## Main definitions

* `Part.Widens`: the structures with nulls

## Main results

* `Holds.widens`: a null gained inside a part widens the whole tree as it widens the part
* `Holds.widens_of_absent`: a null gained by an object that is read as a structure
-/

namespace Stencil

open Json

namespace Json

variable {place : Place} {key : String}

/-! ## One object among others -/

/-- What a place is found in is known by it, if places are listed once. -/
theorem eq_of_mem_starts {α : Type} {starts : α → List Place} {parts : List α}
    (hnodup : (parts.flatMap starts).Nodup) {part other : α} (hpart : part ∈ parts)
    (hother : other ∈ parts) (hmem : place ∈ starts part) (hmem' : place ∈ starts other) :
    other = part := by
  by_contra hne
  obtain ⟨-, hdisjoint⟩ := List.nodup_flatMap.mp hnodup
  have : Std.Symm (Function.onFun List.Disjoint starts) := ⟨fun _ _ h => h.symm⟩
  have hapart := hdisjoint.forall hother hpart hne
  exact hapart hmem' hmem

theorem sublist_flatMap_starts {α : Type} (starts : α → List Place) {parts : List α} {part : α}
    (h : part ∈ parts) : (starts part).Sublist (parts.flatMap starts) := by
  rw [List.flatMap_def]
  exact List.sublist_flatten_of_mem (List.mem_map_of_mem h)

namespace Node

theorem exists_of_mem_members {node value : Node} {name : String}
    (h : (name, value) ∈ node.members) : ∃ start members atKey atValue,
      node = .object start members ∧ .entry name atKey value atValue ∈ members := by
  unfold Node.members at h
  split at h
  · obtain ⟨member, hmember, hpair⟩ := List.mem_filterMap.mp h
    cases member with
    | broken fault => cases hpair
    | entry =>
      obtain ⟨rfl, rfl⟩ := Prod.mk.inj (Option.some.inj hpair)
      exact ⟨_, _, _, _, rfl, hmember⟩
  · cases h

theorem exists_of_mem_items {node item : Node} (h : item ∈ node.items) :
    ∃ start items, node = .list start items ∧ item ∈ items := by
  unfold Node.items at h
  split at h
  · exact ⟨_, _, rfl, h⟩
  · cases h

theorem starts_sublist_of_mem_members {node value : Node} {name : String}
    (h : (name, value) ∈ node.members) : value.starts.Sublist node.starts := by
  obtain ⟨start, members, atKey, atValue, rfl, hmem⟩ := exists_of_mem_members h
  rw [starts_object]
  exact (sublist_flatMap_starts Member.starts hmem).cons start

theorem starts_sublist_of_mem_items {node item : Node} (h : item ∈ node.items) :
    item.starts.Sublist node.starts := by
  obtain ⟨start, items, rfl, hmem⟩ := exists_of_mem_items h
  rw [starts_list]
  exact sublist_flatMap_starts Node.starts hmem

end Node

theorem Member.GainsNull.alike {member member' : Member}
    (h : member.GainsNull place key member') (hplace : place ∉ member.starts) :
    member.Alike Eq member' := by
  cases h with
  | broken => exact .broken
  | entry hvalue => exact .entry rfl (hvalue.alike hplace)

/-- What is related one by one is so for a reason that each part may have of its own. -/
theorem forall₂_imp_of_mem {α β : Type} {R S : α → β → Prop} {as : List α} {bs : List β}
    (h : List.Forall₂ R as bs) (hRS : ∀ a ∈ as, ∀ b, R a b → S a b) : List.Forall₂ S as bs := by
  have hmem := (List.forall₂_and_left as bs).mpr ⟨fun _ ha => ha, h⟩
  exact hmem.imp fun a b hab => hRS a hab.1 b hab.2

end Json

namespace Declaration

open Node

variable {place : Place} {key : String}

section Structures

variable {α : Type} {schema : Schema α} {R : String → Node → Node → Prop} {S : Node → Node → Prop}

/-- Members gain a null in one of them only, the value of which is widened by it. -/
theorem matches_of_gainsNull {P : String → Node → Node → Prop}
    (hsame : ∀ {key node node'}, node.Alike Eq node' → P key node node')
    {members members' : List Member} (hnodup : (members.flatMap Member.starts).Nodup)
    {name : String} {atKey atValue : Place} {value : Node}
    (hmem : .entry name atKey value atValue ∈ members) (hplace : place ∈ value.starts)
    (hvalue : ∀ value', value.GainsNull place key value' → P name value value')
    (h : List.Forall₂ (Member.GainsNull place key) members members') :
    List.Forall₂ (Member.Matches P) members members' := by
  refine forall₂_imp_of_mem h fun member hmember member' hgains => ?_
  by_cases hin : place ∈ member.starts
  · obtain rfl := eq_of_mem_starts hnodup hmem hmember hplace hin
    cases hgains with
    | entry hgains => exact .entry (hvalue _ hgains)
  · exact (hgains.alike hin).matches hsame

/-- A null in the value of a field widens the object around it. -/
theorem widens_of_member (hfields : schema.KeepsFields R) {node node' value : Node} {name : String}
    (hnodup : node.starts.Nodup) (hmem : (name, value) ∈ node.members)
    (hplace : place ∈ value.starts) (hfield : name ∈ schema.fields)
    (hvalue : ∀ value', value.GainsNull place key value' → R name value value')
    (h : node.GainsNull place key node') : Node.Widens schema.fields R node node' := by
  obtain ⟨start, members, atKey, atValue, rfl, hentry⟩ := exists_of_mem_members hmem
  rw [starts_object, List.nodup_cons] at hnodup
  cases h with
  | object hmembers =>
    refine .within (matches_of_gainsNull hfields.atField_of_same hnodup.2 hentry hplace ?_ hmembers)
    intro value' hgains
    unfold AtField
    rw [if_pos hfield]
    exact hvalue value' hgains
  | null =>
    -- The object itself starts elsewhere.
    exact absurd (List.mem_flatMap.mpr ⟨_, hentry, hplace⟩) hnodup.1

/-- A null in an item widens the list around it. -/
theorem widensItems_of_item (hsame : ∀ {node node'}, node.Alike Eq node' → S node node')
    {node node' item : Node} (hnodup : node.starts.Nodup) (hmem : item ∈ node.items)
    (hplace : place ∈ item.starts) (hitem : ∀ item', item.GainsNull place key item' → S item item')
    (h : node.GainsNull place key node') : WidensItems S node node' := by
  obtain ⟨start, items, rfl, hmem⟩ := exists_of_mem_items hmem
  rw [starts_list] at hnodup
  cases h with
  | list hitems =>
    refine .within (forall₂_imp_of_mem hitems fun other hother other' hgains => ?_)
    by_cases hin : place ∈ other.starts
    · obtain rfl := eq_of_mem_starts hnodup hmem hother hplace hin
      exact hitem _ hgains
    · exact hsame (hgains.alike hin)

/-- A null in the value for a name widens the table around it. -/
theorem widensTable_of_member (hsame : ∀ {node node'}, node.Alike Eq node' → S node node')
    {node node' value : Node} {name : String} (hnodup : node.starts.Nodup)
    (hmem : (name, value) ∈ node.members) (hplace : place ∈ value.starts)
    (hvalue : ∀ value', value.GainsNull place key value' → S value value')
    (h : node.GainsNull place key node') : WidensTable S node node' := by
  obtain ⟨start, members, atKey, atValue, rfl, hentry⟩ := exists_of_mem_members hmem
  rw [starts_object, List.nodup_cons] at hnodup
  cases h with
  | object hmembers =>
    exact .within (matches_of_gainsNull hsame hnodup.2 hentry hplace hvalue hmembers)
  | null => exact absurd (List.mem_flatMap.mpr ⟨_, hentry, hplace⟩) hnodup.1

/-- A null in an item of a list that is a field. -/
theorem widens_of_listed (hfields : schema.KeepsFields R) {node node' list item : Node}
    {name : String} (hnodup : node.starts.Nodup) (hlist : (name, list) ∈ node.members)
    (hmem : item ∈ list.items) (hplace : place ∈ item.starts) (hfield : name ∈ schema.fields)
    (hR : ∀ {list list'}, WidensItems S list list' → R name list list')
    (hsame : ∀ {node node'}, node.Alike Eq node' → S node node')
    (hitem : ∀ item', item.GainsNull place key item' → S item item')
    (h : node.GainsNull place key node') : Node.Widens schema.fields R node node' := by
  have hstarts := starts_sublist_of_mem_items hmem
  have hlistNodup := (starts_sublist_of_mem_members hlist).nodup hnodup
  refine widens_of_member hfields hnodup hlist (hstarts.subset hplace) hfield ?_ h
  exact fun list' hgains => hR (widensItems_of_item hsame hlistNodup hmem hplace hitem hgains)

/-- A null in the value for a name, in a table that is a field. -/
theorem widens_of_named (hfields : schema.KeepsFields R) {node node' table value : Node}
    {field name : String} (hnodup : node.starts.Nodup) (htable : (field, table) ∈ node.members)
    (hmem : (name, value) ∈ table.members) (hplace : place ∈ value.starts)
    (hfield : field ∈ schema.fields)
    (hR : ∀ {table table'}, WidensTable S table table' → R field table table')
    (hsame : ∀ {node node'}, node.Alike Eq node' → S node node')
    (hvalue : ∀ value', value.GainsNull place key value' → S value value')
    (h : node.GainsNull place key node') : Node.Widens schema.fields R node node' := by
  have hstarts := starts_sublist_of_mem_members hmem
  have htableNodup := (starts_sublist_of_mem_members htable).nodup hnodup
  refine widens_of_member hfields hnodup htable (hstarts.subset hplace) hfield ?_ h
  exact fun table' hgains => hR (widensTable_of_member hsame htableNodup hmem hplace hvalue hgains)

/-- A null in front of the members of an object widens it, if its key is a field that no member
has. -/
theorem widens_of_absent (hfields : schema.KeepsFields R) {members : List Member} {node' : Node}
    (hnodup : (Node.object place members).starts.Nodup) (hkey : key ∈ schema.fields)
    (habsent : key ∉ Schema.keysOf members)
    (h : (Node.object place members).GainsNull place key node') :
    Node.Widens schema.fields R (.object place members) node' := by
  rw [starts_object, List.nodup_cons] at hnodup
  have hmatches : ∀ {members'}, List.Forall₂ (Member.GainsNull place key) members members' →
      List.Forall₂ (Member.Matches (AtField schema.fields R)) members members' := by
    intro members' hmembers
    refine forall₂_imp_of_mem hmembers fun member hmember member' hgains => ?_
    refine Member.Alike.matches hfields.atField_of_same (hgains.alike fun hin => hnodup.1 ?_)
    exact List.mem_flatMap.mpr ⟨member, hmember, hin⟩
  cases h with
  | object hmembers => exact .within (hmatches hmembers)
  | null hmembers =>
    exact @Node.Widens.null _ _ _ _ [] [] _ _ _ _ _ _ hkey habsent .nil (hmatches hmembers)

end Structures

/-! ## Parts of a declaration -/

namespace Part

/-- Structures with nulls. -/
def Widens : Part → Node → Node → Prop
  | declaration => Declaration.Widens
  | api => Api.Widens
  | operation => Operation.Widens
  | parameter => Parameter.Widens
  | responseMessage => ResponseMessage.Widens
  | model => Model.Widens
  | property => Property.Widens
  | items => Items.Widens

theorem isLiteral_of_mem_fields (part : Part) :
    ∀ key ∈ part.fields, ∀ c ∈ key.toList, IsLiteral c := by
  -- As a computation over lists, so that no instance for all characters is looked for.
  have hall : part.fields.all (·.toList.all fun c => decide (IsLiteral c)) = true := by
    cases part <;> decide
  intro key hkey c hc
  exact of_decide_eq_true (List.all_eq_true.mp (List.all_eq_true.mp hall key hkey) c hc)

end Part

namespace Holds

variable {root node : Node} {part : Part}

theorem starts_sublist (h : Holds root part node) : node.starts.Sublist root.starts := by
  induction h with
  | declaration => exact List.Sublist.refl _
  | operationItems _ hmem ih | parameterItems _ hmem ih | propertyItems _ hmem ih =>
    exact (starts_sublist_of_mem_members hmem).trans ih
  | api _ hlist hmem ih | operation _ hlist hmem ih | parameter _ hlist hmem ih
  | responseMessage _ hlist hmem ih =>
    exact ((starts_sublist_of_mem_items hmem).trans (starts_sublist_of_mem_members hlist)).trans ih
  | model _ htable hmem ih | property _ htable hmem ih =>
    exact ((starts_sublist_of_mem_members hmem).trans
      (starts_sublist_of_mem_members htable)).trans ih

theorem nodup_starts (hnodup : root.starts.Nodup) (h : Holds root part node) :
    node.starts.Nodup :=
  h.starts_sublist.nodup hnodup

/-- **A null gained inside a part** widens the whole tree as it widens the part. -/
theorem widens (hnodup : root.starts.Nodup) (h : Holds root part node)
    (hplace : place ∈ node.starts)
    (hnode : ∀ node', node.GainsNull place key node' → part.Widens node node') {root' : Node}
    (hgains : root.GainsNull place key root') : Declaration.Widens root root' := by
  have hlisted : ∀ {node list item : Node} {name}, (name, list) ∈ node.members →
      item ∈ list.items → place ∈ item.starts → place ∈ node.starts := fun hlist hmem hin =>
    ((starts_sublist_of_mem_items hmem).trans (starts_sublist_of_mem_members hlist)).subset hin
  have hnamed : ∀ {node table value : Node} {field name}, (field, table) ∈ node.members →
      (name, value) ∈ table.members → place ∈ value.starts → place ∈ node.starts :=
    fun htable hmem hin => ((starts_sublist_of_mem_members hmem).trans
      (starts_sublist_of_mem_members htable)).subset hin
  -- Induction on the way to the part: what widens a part widens the one around it.
  induction h with
  | declaration => exact hnode _ hgains
  | api hnode' hlist hmem ih =>
    refine ih (hlisted hlist hmem hplace) fun node' => ?_
    exact widens_of_listed keepsFields (hnode'.nodup_starts hnodup) hlist hmem hplace (by decide) id
      .same hnode
  | model hnode' htable hmem ih =>
    refine ih (hnamed htable hmem hplace) fun node' => ?_
    exact widens_of_named keepsFields (hnode'.nodup_starts hnodup) htable hmem hplace (by decide) id
      .same hnode
  | operation hnode' hlist hmem ih =>
    refine ih (hlisted hlist hmem hplace) fun node' => ?_
    exact widens_of_listed Api.keepsFields (hnode'.nodup_starts hnodup) hlist hmem hplace
      (by decide) id .same hnode
  | operationItems hnode' hmem ih =>
    refine ih ((starts_sublist_of_mem_members hmem).subset hplace) fun node' => ?_
    exact widens_of_member Operation.keepsFields (hnode'.nodup_starts hnodup) hmem hplace
      (by decide) hnode
  | parameter hnode' hlist hmem ih =>
    refine ih (hlisted hlist hmem hplace) fun node' => ?_
    exact widens_of_listed Operation.keepsFields (hnode'.nodup_starts hnodup) hlist hmem hplace
      (by decide) id .same hnode
  | responseMessage hnode' hlist hmem ih =>
    refine ih (hlisted hlist hmem hplace) fun node' => ?_
    exact widens_of_listed Operation.keepsFields (hnode'.nodup_starts hnodup) hlist hmem hplace
      (by decide) id .same hnode
  | parameterItems hnode' hmem ih =>
    refine ih ((starts_sublist_of_mem_members hmem).subset hplace) fun node' => ?_
    exact widens_of_member Parameter.keepsFields (hnode'.nodup_starts hnodup) hmem hplace
      (by decide) hnode
  | property hnode' htable hmem ih =>
    refine ih (hnamed htable hmem hplace) fun node' => ?_
    exact widens_of_named Model.keepsFields (hnode'.nodup_starts hnodup) htable hmem hplace
      (by decide) id .same hnode
  | propertyItems hnode' hmem ih =>
    refine ih ((starts_sublist_of_mem_members hmem).subset hplace) fun node' => ?_
    exact widens_of_member Property.keepsFields (hnode'.nodup_starts hnodup) hmem hplace
      (by decide) hnode

/-- A null in front of the members of an object that is read as a structure, for one of its fields
that no member has. -/
theorem widens_of_absent (hnodup : root.starts.Nodup) {members : List Member}
    (h : Holds root part (.object place members)) (hkey : key ∈ part.fields)
    (habsent : key ∉ Schema.keysOf members) {root' : Node}
    (hgains : root.GainsNull place key root') : Declaration.Widens root root' := by
  have hplace : place ∈ (Node.object place members).starts := by
    rw [starts_object]
    exact List.mem_cons_self
  refine h.widens hnodup hplace (fun node' hnode => ?_) hgains
  have hobject := h.nodup_starts hnodup
  cases part with
  | declaration => exact Declaration.widens_of_absent keepsFields hobject hkey habsent hnode
  | api => exact Declaration.widens_of_absent Api.keepsFields hobject hkey habsent hnode
  | operation => exact Declaration.widens_of_absent Operation.keepsFields hobject hkey habsent hnode
  | parameter => exact Declaration.widens_of_absent Parameter.keepsFields hobject hkey habsent hnode
  | responseMessage =>
    exact Declaration.widens_of_absent ResponseMessage.keepsFields hobject hkey habsent hnode
  | model => exact Declaration.widens_of_absent Model.keepsFields hobject hkey habsent hnode
  | property => exact Declaration.widens_of_absent Property.keepsFields hobject hkey habsent hnode
  | items => exact Declaration.widens_of_absent Items.keepsFields hobject hkey habsent hnode

end Holds

end Declaration

end Stencil
