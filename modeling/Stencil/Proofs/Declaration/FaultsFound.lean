import Stencil.Proofs.Declaration.Reading
import Stencil.Declaration.Read
import Stencil.Proofs.Json.Growth

/-!
# Reading finds every fault

Whatever is read out of a tree looks at all of it: members that a structure does not know are read
as values, and null is a value without a fault. So a tree out of which something is read has no
fault in it, and a text that holds a declaration is a JSON text.

## Main definitions

* `Finds read`: nothing is read out of a tree with a fault
* `Schema.Finds`: the same of all fields of a structure

## Main results

* `Schema.Finds.read`: a structure finds what its fields find
* `isJson_of_read`: a text that holds a declaration is a JSON text
-/

namespace Stencil.Declaration

open Json

variable {α : Type}

/-! ## Readers of values -/

/-- Nothing is read out of a tree with a fault in it. -/
def Finds (read : Reader α) : Prop := ∀ {node value}, read node = .ok value → node.Sound

@[simp] theorem finds_text : Finds text := by
  intro node value h
  unfold text at h
  split at h
  · exact Node.sound_scalar _ _
  · exact absurd h mismatch_ne_ok

@[simp] theorem finds_boolean : Finds boolean := by
  intro node value h
  unfold boolean at h
  split at h
  · exact Node.sound_scalar _ _
  · exact absurd h mismatch_ne_ok

@[simp] theorem finds_integer : Finds integer := by
  intro node value h
  unfold integer at h
  split at h
  · exact Node.sound_scalar _ _
  · exact absurd h mismatch_ne_ok

@[simp] theorem finds_anything : Finds anything := by
  intro node value h
  unfold anything at h
  split at h
  · rename_i hvalue
    exact ⟨_, hvalue⟩
  · cases h

@[simp] theorem finds_deprecation : Finds deprecation := by
  intro node value h
  obtain ⟨form, hform, -⟩ := exists_of_bind_eq_ok h
  exact finds_anything hform

namespace Finds

variable {read : Reader α} (hread : Finds read)

include hread

@[simp] theorem optional : Finds (optional read) := by
  intro node value h
  unfold Declaration.optional at h
  split at h
  · exact Node.sound_scalar _ _
  · obtain ⟨held, hheld, -⟩ := exists_of_map_eq_ok h
    exact hread hheld

@[simp] theorem orDefault (default : α) : Finds (orDefault default read) := by
  intro node value h
  unfold Declaration.orDefault at h
  split at h
  · exact Node.sound_scalar _ _
  · exact hread h

theorem forall_of_items {nodes : List Node} {values : List α}
    (h : items read nodes = .ok values) : ∀ node ∈ nodes, node.Sound := by
  induction nodes generalizing values with
  | nil => exact List.forall_mem_nil _
  | cons node rest ih =>
    obtain ⟨value, hvalue, h⟩ := exists_of_bind_eq_ok h
    obtain ⟨others, hothers, -⟩ := exists_of_map_eq_ok h
    exact List.forall_mem_cons.mpr ⟨hread hvalue, ih hothers⟩

@[simp] theorem listOf : Finds (listOf read) := by
  intro node values h
  unfold Declaration.listOf at h
  split at h
  · exact Node.sound_list_iff.mpr (hread.forall_of_items h)
  · exact absurd h mismatch_ne_ok

theorem forall_of_entries {before after : Written α} {members : List Member}
    (h : entries read before members = .ok after) : ∀ member ∈ members, member.Sound := by
  induction members generalizing before with
  | nil => exact List.forall_mem_nil _
  | cons member rest ih =>
    cases member with
    | broken fault => cases h
    | entry key atKey node atValue =>
      obtain ⟨value, hvalue, hrest⟩ := exists_of_bind_eq_ok h
      exact List.forall_mem_cons.mpr ⟨hread (eq_ok_of_settled hvalue), ih hrest⟩

@[simp] theorem mapOf : Finds (mapOf read) := by
  intro node written h
  unfold Declaration.mapOf at h
  split at h
  · exact Node.sound_object_iff.mpr (hread.forall_of_entries h)
  · exact absurd h mismatch_ne_ok

end Finds

/-! ## Structures -/

/-- No field is read out of a tree with a fault in it. -/
def Schema.Finds (schema : Schema α) : Prop := ∀ f ∈ schema.table, Declaration.Finds f.read

namespace Schema

variable {schema : Schema α} (hschema : schema.Finds)

include hschema

theorem Finds.forall_of_members {seen : List String} {record result : α} {members : List Member}
    (h : schema.members seen record members = .ok result) : ∀ member ∈ members, member.Sound := by
  induction members generalizing seen record with
  | nil => exact List.forall_mem_nil _
  | cons member rest ih =>
    cases member with
    | broken fault => cases h
    | entry key atKey node atValue =>
      refine List.forall_mem_cons.mpr ?_
      rcases members_entry_eq_ok h with
        ⟨f, hf, -, -, content, hread, hrest⟩ | ⟨-, value, hvalue, hrest⟩
      · exact ⟨hschema f hf hread, ih hrest⟩
      · exact ⟨finds_anything hvalue, ih hrest⟩

/-- **A structure** is not read out of a tree with a fault in it, if none of its fields is. -/
theorem Finds.read : Declaration.Finds schema.read := by
  intro node record h
  obtain ⟨start, members, rfl, hmembers⟩ := exists_of_read_eq_ok h
  exact Node.sound_object_iff.mpr (Finds.forall_of_members hschema hmembers)

end Schema

@[simp] theorem Items.finds : Finds Items.schema.read :=
  Schema.Finds.read (by simp [Schema.Finds, schema])

@[simp] theorem Property.finds : Finds Property.schema.read :=
  Schema.Finds.read (by simp [Schema.Finds, schema])

@[simp] theorem Model.finds : Finds Model.schema.read :=
  Schema.Finds.read (by simp [Schema.Finds, schema])

@[simp] theorem ResponseMessage.finds : Finds ResponseMessage.schema.read :=
  Schema.Finds.read (by simp [Schema.Finds, schema])

@[simp] theorem Parameter.finds : Finds Parameter.schema.read :=
  Schema.Finds.read (by simp [Schema.Finds, schema])

@[simp] theorem Operation.finds : Finds Operation.schema.read :=
  Schema.Finds.read (by simp [Schema.Finds, schema])

@[simp] theorem Api.finds : Finds Api.schema.read :=
  Schema.Finds.read (by simp [Schema.Finds, schema])

@[simp] theorem finds : Finds schema.read :=
  Schema.Finds.read (by simp [Schema.Finds, schema])

/-- **A text that holds a declaration** is a JSON text. -/
theorem isJson_of_read {text : String} {declaration : Declaration}
    (h : read text = .ok declaration) : IsJson text := by
  unfold read ofTree at h
  split at h
  · cases h
  · cases h
  · rename_i hroot htrailing
    exact isJson_iff.mpr ⟨finds hroot, htrailing⟩

end Stencil.Declaration
