import Stencil.Proofs.Declaration.NullMembers
import Stencil.Proofs.Declaration.SameReading

/-!
# Reading widened trees

A tree is widened by nulls: an object may get a member that is null, for a field that no member of
it has, and so may the objects inside it. Everything else stays as it is, but for the places, which
move. What is read of a tree is read of the widened one too.

## Main definitions

* `Node.Widens fields R`: an object with one more null among its fields
* `Keeps R read`: what is read of a tree is read of a related one

## Main results

* `Schema.KeepsFields.keeps`: structures are read as if the nulls were absent
-/

namespace Stencil

open Json

namespace Json

theorem Node.Alike.isNull_eq {node node' : Node} (h : node.Alike Eq node') :
    node'.isNull = node.isNull := by
  cases h with
  | scalar hscalar =>
    obtain rfl := hscalar.eq
    cases hscalar <;> rfl
  | broken | list | object => rfl

/-! ## Widened trees -/

/-- Values for a key that is a field are related as `R` says for it, all others are the same. -/
def AtField (fields : List String) (R : String → Node → Node → Prop) (key : String)
    (node node' : Node) : Prop :=
  if key ∈ fields then R key node node' else node.Alike Eq node'

/-- The same key, with values that are related as `R` says for it. -/
inductive Member.Matches (R : String → Node → Node → Prop) : Member → Member → Prop
  | broken {fault fault'} : Matches R (.broken fault) (.broken fault')
  | entry {key atKey atKey' value value' atValue atValue'} : R key value value' →
    Matches R (.entry key atKey value atValue) (.entry key atKey' value' atValue')

theorem Member.Alike.matches {R : String → Node → Node → Prop}
    (hsame : ∀ {key node node'}, node.Alike Eq node' → R key node node') {member member' : Member}
    (h : member.Alike Eq member') : member.Matches R member' := by
  cases h with
  | broken => exact .broken
  | entry hkey hnode =>
    subst hkey
    exact .entry (hsame hnode)

namespace Node

/-- The same tree, or two objects whose members match, but for at most one of the second: this is
null, and its key is a field that the first object has not. -/
inductive Widens (fields : List String) (R : String → Node → Node → Prop) : Node → Node → Prop
  | same {node node'} : node.Alike Eq node' → Widens fields R node node'
  | within {start start' members members'} :
    List.Forall₂ (Member.Matches (AtField fields R)) members members' →
    Widens fields R (.object start members) (.object start' members')
  | null {start start' before before' after after' key atKey stop atValue} :
    key ∈ fields → key ∉ Declaration.Schema.keysOf (before ++ after) →
    List.Forall₂ (Member.Matches (AtField fields R)) before before' →
    List.Forall₂ (Member.Matches (AtField fields R)) after after' →
    Widens fields R (.object start (before ++ after))
      (.object start' (before' ++ .entry key atKey (.scalar .null stop) atValue :: after'))

/-- The same tree, or two lists with items that are related one by one. -/
inductive WidensItems (R : Node → Node → Prop) : Node → Node → Prop
  | same {node node'} : node.Alike Eq node' → WidensItems R node node'
  | within {start start' items items'} : List.Forall₂ R items items' →
    WidensItems R (.list start items) (.list start' items')

/-- The same tree, or two tables with values that are related name by name. -/
inductive WidensTable (R : Node → Node → Prop) : Node → Node → Prop
  | same {node node'} : node.Alike Eq node' → WidensTable R node node'
  | within {start start' members members'} :
    List.Forall₂ (Member.Matches fun _ => R) members members' →
    WidensTable R (.object start members) (.object start' members')

end Node

end Json

namespace Declaration

open Node

/-! ## Readers of values -/

variable {α β : Type} {R : Node → Node → Prop} {read : Reader α} {node node' : Node}

/-- What is read of a tree is read of a related one. Trees that are the same but for places are
related, and null is related to null only. -/
class Keeps (R : Node → Node → Prop) (read : Reader α) : Prop where
  same : ∀ {node node'}, node.Alike Eq node' → R node node'
  isNull_eq : ∀ {node node'}, R node node' → node'.isNull = node.isNull
  read_eq_ok : ∀ {node node' value}, R node node' → read node = .ok value → read node' = .ok value

theorem optional_of_isNull (h : node.isNull = true) : optional read node = .ok none := by
  unfold isNull at h
  split at h
  · rfl
  · cases h

theorem optional_of_isNull_eq_false (h : node.isNull = false) {value : α}
    (hread : read node = .ok value) : optional read node = .ok (some value) := by
  unfold optional
  split
  · cases h
  · rw [hread]
    rfl

theorem orDefault_of_isNull (h : node.isNull = true) (default : α) :
    orDefault default read node = .ok default := by
  unfold isNull at h
  split at h
  · rfl
  · cases h

theorem orDefault_of_isNull_eq_false (h : node.isNull = false) (default : α) :
    orDefault default read node = read node := by
  unfold orDefault
  split
  · cases h
  · rfl

namespace Keeps

/-- A scalar is read wherever it stops. -/
theorem of_scalar (h : ∀ {node value}, read node = .ok value →
    ∃ scalar stop, node = .scalar scalar stop ∧ ∀ stop', read (.scalar scalar stop') = .ok value) :
    Keeps (Node.Alike Eq) read where
  same := id
  isNull_eq := Node.Alike.isNull_eq
  read_eq_ok := by
    intro node node' value hsame hread
    obtain ⟨scalar, stop, rfl, hstop⟩ := h hread
    cases hsame with
    | scalar hscalar =>
      rw [← hscalar.eq]
      exact hstop _

instance : Keeps (Node.Alike Eq) text := by
  refine of_scalar fun {node value} h => ?_
  unfold text at h
  split at h
  · exact ⟨_, _, rfl, fun _ => h⟩
  · exact absurd h mismatch_ne_ok

instance : Keeps (Node.Alike Eq) boolean := by
  refine of_scalar fun {node value} h => ?_
  unfold boolean at h
  split at h
  · exact ⟨_, _, rfl, fun _ => h⟩
  · exact absurd h mismatch_ne_ok

instance : Keeps (Node.Alike Eq) integer := by
  refine of_scalar fun {node value} h => ?_
  unfold integer at h
  split at h
  · rename_i n stop
    refine ⟨.number (.whole n), stop, rfl, fun stop' => ?_⟩
    unfold integer
    split at h
    · rename_i hrange
      exact (if_pos hrange).trans h
    · cases h
  · exact absurd h mismatch_ne_ok

instance : Keeps (Node.Alike Eq) anything where
  same := id
  isNull_eq := Node.Alike.isNull_eq
  read_eq_ok hsame h := by
    unfold anything
    rw [hsame.value_eq_ok (value_of_anything h)]

instance : Keeps (Node.Alike Eq) deprecation where
  same := id
  isNull_eq := Node.Alike.isNull_eq
  read_eq_ok hsame h := by
    obtain ⟨value, hvalue, h⟩ := exists_of_bind_eq_ok h
    unfold deprecation
    rw [read_eq_ok hsame hvalue]
    exact h

variable [hkeeps : Keeps R read]

instance : Keeps R (optional read) where
  same := hkeeps.same
  isNull_eq := hkeeps.isNull_eq
  read_eq_ok := by
    intro node node' value h hread
    have hnull := hkeeps.isNull_eq h
    rcases optional_eq_ok hread with ⟨hisNull, rfl⟩ | ⟨hisNull, held, hheld, rfl⟩
    · exact optional_of_isNull (hnull.trans hisNull)
    · exact optional_of_isNull_eq_false (hnull.trans hisNull) (hkeeps.read_eq_ok h hheld)

instance (default : α) : Keeps R (orDefault default read) where
  same := hkeeps.same
  isNull_eq := hkeeps.isNull_eq
  read_eq_ok := by
    intro node node' value h hread
    have hnull := hkeeps.isNull_eq h
    rcases orDefault_eq_ok hread with ⟨hisNull, rfl⟩ | ⟨hisNull, hheld⟩
    · exact orDefault_of_isNull (hnull.trans hisNull) value
    · rw [orDefault_of_isNull_eq_false (hnull.trans hisNull) default]
      exact hkeeps.read_eq_ok h hheld

theorem items_eq_ok {nodes nodes' : List Node} (h : List.Forall₂ R nodes nodes') {values : List α}
    (hvalues : items read nodes = .ok values) : items read nodes' = .ok values := by
  induction h generalizing values with
  | nil => exact hvalues
  | cons hnode _ ih =>
    obtain ⟨value, hvalue, hvalues⟩ := exists_of_bind_eq_ok hvalues
    obtain ⟨others, hothers, rfl⟩ := exists_of_map_eq_ok hvalues
    rw [items, hkeeps.read_eq_ok hnode hvalue, ih hothers]
    rfl

instance : Keeps (WidensItems R) (listOf read) where
  same := .same
  isNull_eq h := by
    cases h with
    | same hsame => exact hsame.isNull_eq
    | within => rfl
  read_eq_ok := by
    intro node node' values h hvalues
    obtain ⟨start, nodes, rfl⟩ := exists_list_of_listOf hvalues
    cases h with
    | same hsame =>
      cases hsame with
      | list hnodes => exact hkeeps.items_eq_ok (hnodes.imp fun _ _ => hkeeps.same) hvalues
    | within hnodes => exact hkeeps.items_eq_ok hnodes hvalues

theorem entries_eq_ok {members members' : List Member}
    (h : List.Forall₂ (Member.Matches fun _ => R) members members') {before after : Written α}
    (hafter : entries read before members = .ok after) :
    entries read before members' = .ok after := by
  induction h generalizing before with
  | nil => exact hafter
  | cons hmember _ ih =>
    cases hmember with
    | broken => cases hafter
    | entry hvalue =>
      obtain ⟨value, hsettled, hafter⟩ := exists_of_bind_eq_ok hafter
      rw [entries, hkeeps.read_eq_ok hvalue (eq_ok_of_settled hsettled)]
      exact ih hafter

theorem exists_object_of_mapOf {table : Written α} (h : mapOf read node = .ok table) :
    ∃ start members, node = .object start members := by
  unfold mapOf at h
  split at h
  · exact ⟨_, _, rfl⟩
  · exact absurd h mismatch_ne_ok

instance : Keeps (WidensTable R) (mapOf read) where
  same := .same
  isNull_eq h := by
    cases h with
    | same hsame => exact hsame.isNull_eq
    | within => rfl
  read_eq_ok := by
    intro node node' table h htable
    obtain ⟨start, members, rfl⟩ := exists_object_of_mapOf htable
    cases h with
    | same hsame =>
      cases hsame with
      | object hmembers =>
        exact hkeeps.entries_eq_ok (hmembers.imp fun _ _ => Member.Alike.matches hkeeps.same) htable
    | within hmembers => exact hkeeps.entries_eq_ok hmembers htable

instance [hkeeps : Keeps (Node.Alike Eq) read] : Keeps (Node.Alike Eq) (listOf read) where
  same := id
  isNull_eq := Node.Alike.isNull_eq
  read_eq_ok hsame hvalues :=
    read_eq_ok (WidensItems.same (R := Node.Alike Eq) hsame) hvalues

end Keeps

/-! ## Structures -/

section Structures

variable {schema : Schema α} {R : String → Node → Node → Prop}

/-- What is read into a field is read of related trees. -/
def Schema.KeepsFields (schema : Schema α) (R : String → Node → Node → Prop) : Prop :=
  ∀ f ∈ schema.table, Keeps (R f.key) f.read

namespace Schema.KeepsFields

theorem atField_of_same (h : schema.KeepsFields R) {key : String} (hsame : node.Alike Eq node') :
    AtField schema.fields R key node node' := by
  unfold AtField
  split_ifs with hfield
  · obtain ⟨f, hf, rfl⟩ := exists_of_mem_fields hfield
    exact (h f hf).same hsame
  · exact hsame

/-- Members that match are read as the same structure. -/
theorem members_eq_ok (h : schema.KeepsFields R) {members members' : List Member}
    (hmembers : List.Forall₂ (Member.Matches (AtField schema.fields R)) members members')
    {seen : List String} {record result : α}
    (hresult : schema.members seen record members = .ok result) :
    schema.members seen record members' = .ok result := by
  induction hmembers generalizing seen record with
  | nil => exact hresult
  | cons hmember _ ih =>
    cases hmember with
    | broken => cases hresult
    | entry hvalue =>
      unfold AtField at hvalue
      rcases members_entry_eq_ok hresult with
        ⟨f, hf, rfl, hnew, content, hread, hrest⟩ | ⟨hunknown, value, hanything, hrest⟩
      · rw [if_pos (key_mem_fields hf)] at hvalue
        rw [members_field hf hnew ((h f hf).read_eq_ok hvalue hread)]
        exact ih hrest
      · rw [if_neg hunknown] at hvalue
        rw [members_unknown hunknown (Keeps.read_eq_ok hvalue hanything)]
        exact ih hrest

/-- **A structure** is read of an object as if a null in it were absent. -/
theorem keeps (h : schema.KeepsFields R) :
    Keeps (Node.Widens schema.fields R) schema.read where
  same := .same
  isNull_eq hwidens := by
    -- An object stays one, whatever is put into it.
    cases hwidens with
    | same hsame => exact hsame.isNull_eq
    | within | null => rfl
  read_eq_ok := by
    intro node node' record hwidens hread
    obtain ⟨start, members, rfl, hmembers⟩ := exists_of_read_eq_ok hread
    cases hwidens with
    | same hsame =>
      cases hsame with
      | object hsame =>
        refine h.members_eq_ok (hsame.imp fun _ _ => ?_) hmembers
        exact Member.Alike.matches h.atField_of_same
    | within hmatches => exact h.members_eq_ok hmatches hmembers
    | @null _ start' before before' after after' key atKey stop atValue hkey habsent hbefore
        hafter =>
      -- First the null is put in, and then the members around it are exchanged.
      have hinsert := read_insert hkey habsent start start' atKey stop atValue hread
      refine h.members_eq_ok (List.rel_append hbefore (.cons (.entry ?_) hafter)) hinsert
      exact h.atField_of_same (.scalar .null)

end Schema.KeepsFields

end Structures

end Declaration

end Stencil
