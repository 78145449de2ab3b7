import Mathlib.Data.List.Pairwise
import Stencil.Declaration.Basic
import Stencil.Declaration.Schema
import Stencil.Proofs.Keyed
import Stencil.Proofs.Steps

/-!
# What is read out of a tree

A structure is read out of the members of an object. A known member comes at most once, and its
value is read into the part of its field, which no other member changes; a member that is absent or
null leaves there what an empty structure has. The keys of all other members are kept, in the order
of their bytes. All of this holds of every schema, whatever its fields are.

## Main definitions

* `Node.members`, `Node.member?`, `Node.parts`, `Node.table`: what an object of a text holds
* `Node.unknownKeys fields`: the keys of an object that are not among the fields

## Main results

* `Schema.members_entry_eq_ok`: how one member of an object is read
* `Schema.of_read`: the part of a field is what is read out of its member
* `Schema.keys_of_read`: the keys that a structure keeps
-/

namespace Stencil

/-! ## Objects and lists in a text -/

namespace Json

/-- The key and the value of a member. -/
def Member.pair? : Member → Option (String × Node)
  | .broken _ => none
  | .entry key _ value _ => some (key, value)

namespace Node

/-- Whether the value is null. -/
def isNull : Node → Bool
  | .scalar .null _ => true
  | _ => false

theorem isNull_eq_false {node : Node} (h : ∀ stop, node ≠ .scalar .null stop) :
    node.isNull = false := by
  unfold isNull
  split
  · exact absurd rfl (h _)
  · rfl

/-- The keys and values of an object, in the order of the text. -/
def members : Node → List (String × Node)
  | .object _ members => members.filterMap Member.pair?
  | _ => []

/-- The items of a list. -/
def items : Node → List Node
  | .list _ items => items
  | _ => []

/-- The value of a member that is neither absent nor null. -/
def member? (key : String) (node : Node) : Option Node :=
  (node.members.lookup key).filter (!·.isNull)

/-- The items of a list that is a member. -/
def parts (key : String) (node : Node) : List Node :=
  ((node.member? key).map items).getD []

/-- The values by name in an object that is a member: each name once, at the first place where
it is written and with the last value. -/
def table (key : String) (node : Node) : List (String × Node) :=
  ((node.member? key).map fun object => Written.settle object.members).getD []

/-- The keys of an object that are not among the fields, each once, in the order of their
bytes. -/
def unknownKeys (fields : List String) (node : Node) : List String :=
  Text.inByteOrder ((node.members.map (·.1)).filter (· ∉ fields))

end Node

end Json

namespace Declaration

open Json

variable {α β : Type}

/-! ## Readers of values -/

theorem optional_eq_ok {read : Reader β} {node : Node} {value : Option β}
    (h : optional read node = .ok value) :
    node.isNull = true ∧ value = none ∨
      node.isNull = false ∧ ∃ v, read node = .ok v ∧ value = some v := by
  unfold optional at h
  split at h
  · exact Or.inl ⟨rfl, (Except.ok.inj h).symm⟩
  · rename_i hnull
    obtain ⟨v, hv, rfl⟩ := exists_of_map_eq_ok h
    exact Or.inr ⟨Node.isNull_eq_false hnull, v, hv, rfl⟩

theorem orDefault_eq_ok {default : β} {read : Reader β} {node : Node} {value : β}
    (h : orDefault default read node = .ok value) :
    node.isNull = true ∧ value = default ∨ node.isNull = false ∧ read node = .ok value := by
  unfold orDefault at h
  split at h
  · exact Or.inl ⟨rfl, (Except.ok.inj h).symm⟩
  · rename_i hnull
    exact Or.inr ⟨Node.isNull_eq_false hnull, h⟩

theorem mismatch_ne_ok {expected : Expected} {node : Node} {value : β} :
    mismatch expected node ≠ .ok value := by
  cases node <;> exact nofun

theorem forall₂_items {read : Reader β} {nodes : List Node} {values : List β}
    (h : items read nodes = .ok values) :
    List.Forall₂ (fun node value => read node = .ok value) nodes values := by
  induction nodes generalizing values with
  | nil =>
    obtain rfl := Except.ok.inj h
    exact .nil
  | cons node rest ih =>
    obtain ⟨value, hvalue, h⟩ := exists_of_bind_eq_ok h
    obtain ⟨others, hothers, rfl⟩ := exists_of_map_eq_ok h
    exact .cons hvalue (ih hothers)

/-- A list is read item by item. -/
theorem forall₂_of_listOf {read : Reader β} {node : Node} {values : List β}
    (h : listOf read node = .ok values) :
    List.Forall₂ (fun node value => read node = .ok value) node.items values := by
  unfold listOf at h
  split at h
  · exact forall₂_items h
  · exact absurd h mismatch_ne_ok

theorem eq_ok_of_settled {place : Place} {reading : Reading β} {value : β}
    (h : settled place reading = .ok value) : reading = .ok value := by
  cases reading with
  | ok _ => exact h
  | error _ => cases h

/-- The members of a table are set one after the other. -/
theorem exists_forall₂_of_entries {read : Reader β} {before after : Written β}
    {members : List Member} (h : entries read before members = .ok after) :
    ∃ pairs : List (String × β),
      List.Forall₂ (Written.Corresponds fun node value => read node = .ok value)
          (members.filterMap Member.pair?) pairs ∧
        after.entries =
          pairs.foldl (fun settled pair => Written.setPair pair.1 pair.2 settled)
            before.entries := by
  induction members generalizing before with
  | nil =>
    obtain rfl := Except.ok.inj h
    exact ⟨[], .nil, rfl⟩
  | cons member rest ih =>
    cases member with
    | broken fault => cases h
    | entry key atKey node atValue =>
      obtain ⟨value, hvalue, h⟩ := exists_of_bind_eq_ok h
      obtain ⟨pairs, hpairs, hafter⟩ := ih h
      exact ⟨(key, value) :: pairs, .cons ⟨rfl, eq_ok_of_settled hvalue⟩ hpairs, hafter⟩

/-- A table is read name by name, once for each. -/
theorem forall₂_of_mapOf {read : Reader β} {node : Node} {written : Written β}
    (h : mapOf read node = .ok written) :
    List.Forall₂ (Written.Corresponds fun node value => read node = .ok value)
      (Written.settle node.members) written.entries := by
  unfold mapOf at h
  split at h
  · obtain ⟨pairs, hpairs, hwritten⟩ := exists_forall₂_of_entries h
    rw [hwritten]
    -- The table starts empty.
    change List.Forall₂ _ _
      (pairs.foldl (fun settled pair => Written.setPair pair.1 pair.2 settled) [])
    rw [Written.foldl_setPair]
    exact Written.forall₂_settle hpairs
  · exact absurd h mismatch_ne_ok

namespace Schema

variable {schema : Schema α} {f g : Field α} {record result : α} {node : Node}
  {seen : List String} {members rest : List Member}

/-! ## Fields of a structure -/

theorem key_mem_fields (hf : f ∈ schema.table) : f.key ∈ schema.fields :=
  List.mem_map_of_mem hf

theorem exists_of_mem_fields {key : String} (h : key ∈ schema.fields) :
    ∃ f ∈ schema.table, f.key = key :=
  List.mem_map.mp h

/-- Two fields of a structure are one, or they are apart. -/
theorem eq_or_apart (hf : f ∈ schema.table) (hg : g ∈ schema.table) : f = g ∨ f.Apart g := by
  by_cases h : f = g
  · exact Or.inl h
  · have : Std.Symm (@Field.Apart α) := ⟨fun _ _ h => ⟨h.1.symm, h.2.2, h.2.1⟩⟩
    exact Or.inr (schema.apart.forall hf hg h)

theorem eq_of_key_eq (hf : f ∈ schema.table) (hg : g ∈ schema.table) (h : f.key = g.key) :
    f = g :=
  (eq_or_apart hf hg).resolve_right fun hapart => hapart.1 h

/-- The part of a field stays as it is when another one is set. -/
theorem get_set_of_ne (hf : f ∈ schema.table) (hg : g ∈ schema.table) (h : g.key ≠ f.key)
    (record : α) (content : g.Content) : f.get (g.set record content) = f.get record := by
  rcases eq_or_apart hg hf with rfl | hapart
  · exact absurd rfl h
  · exact hapart.2.1 record content

theorem field_of_mem (hf : f ∈ schema.table) (record : α) :
    schema.field record f.key = f.readInto record := by
  unfold field
  split
  · rename_i g hfound
    have hg := List.mem_of_find?_eq_some hfound
    have hkey := List.find?_some hfound
    rw [eq_of_key_eq hg hf (of_decide_eq_true hkey)]
  · rename_i hnone
    exact absurd (decide_eq_true rfl) (List.find?_eq_none.mp hnone f hf)

theorem get_keep (hf : f ∈ schema.table) (record : α) (key : String) (value : Value) :
    f.get (schema.keep record key value) = f.get record :=
  schema.get_setUnknown f hf record _

theorem unknown_keep (schema : Schema α) (record : α) (key : String) (value : Value) :
    schema.unknown (schema.keep record key value) = (schema.unknown record).set key value :=
  schema.unknown_setUnknown record _

/-! ## Members of a structure -/

theorem exists_of_read_eq_ok (h : schema.read node = .ok record) :
    ∃ start members, node = .object start members ∧
      schema.members [] schema.empty members = .ok record := by
  unfold read at h
  split at h
  · exact ⟨_, _, rfl, h⟩
  · exact absurd h mismatch_ne_ok

/-- The member of a field is read into its part. -/
theorem members_field (hf : f ∈ schema.table) (hnew : f.key ∉ seen) {content : f.Content}
    (hread : f.read node = .ok content) (atKey atValue : Place) :
    schema.members seen record (.entry f.key atKey node atValue :: rest) =
      schema.members (f.key :: seen) (f.set record content) rest := by
  rw [Schema.members, if_pos (key_mem_fields hf), if_neg hnew, field_of_mem hf, Field.readInto,
    hread]
  rfl

/-- A member that is no field is kept. -/
theorem members_unknown {key : String} (hunknown : key ∉ schema.fields) {value : Value}
    (hvalue : anything node = .ok value) (atKey atValue : Place) :
    schema.members seen record (.entry key atKey node atValue :: rest) =
      schema.members seen (schema.keep record key value) rest := by
  rw [Schema.members, if_neg hunknown, hvalue]
  rfl

/-- **One member** is either read as a field that was not read before, or kept as unknown. -/
theorem members_entry_eq_ok {key : String} {atKey atValue : Place}
    (h : schema.members seen record (.entry key atKey node atValue :: rest) = .ok result) :
    (∃ f ∈ schema.table, f.key = key ∧ key ∉ seen ∧ ∃ content, f.read node = .ok content ∧
        schema.members (key :: seen) (f.set record content) rest = .ok result) ∨
      (key ∉ schema.fields ∧ ∃ value, anything node = .ok value ∧
        schema.members seen (schema.keep record key value) rest = .ok result) := by
  rw [Schema.members] at h
  split_ifs at h with hfield hseen
  · obtain ⟨f, hf, rfl⟩ := exists_of_mem_fields hfield
    obtain ⟨next, hnext, h⟩ := exists_of_bind_eq_ok h
    rw [field_of_mem hf] at hnext
    obtain ⟨content, hcontent, rfl⟩ := exists_of_map_eq_ok (eq_ok_of_settled hnext)
    exact Or.inl ⟨f, hf, rfl, hseen, content, hcontent, h⟩
  · obtain ⟨value, hvalue, h⟩ := exists_of_bind_eq_ok h
    exact Or.inr ⟨hfield, value, hvalue, h⟩

/-- A field that was read does not come again. -/
theorem lookup_eq_none_of_mem_seen (h : schema.members seen record members = .ok result)
    (hf : f ∈ schema.table) (hseen : f.key ∈ seen) :
    (members.filterMap Member.pair?).lookup f.key = none := by
  induction members generalizing seen record with
  | nil => rfl
  | cons member rest ih =>
    cases member with
    | broken fault => cases h
    | entry key atKey node atValue =>
      have hne : f.key ≠ key := by
        rintro rfl
        rcases members_entry_eq_ok h with ⟨_, -, -, hnew, -⟩ | ⟨hunknown, -⟩
        · exact hnew hseen
        · exact hunknown (key_mem_fields hf)
      simp only [List.filterMap_cons, Member.pair?, List.lookup_cons, beq_eq_false_iff_ne.mpr hne]
      rcases members_entry_eq_ok h with ⟨_, -, -, -, content, -, hrest⟩ | ⟨-, value, -, hrest⟩
      · exact ih hrest (List.mem_cons_of_mem _ hseen)
      · exact ih hrest hseen

/-- Members behind each other read the part of a field out of the one of its key. -/
theorem of_members (hf : f ∈ schema.table)
    (h : schema.members seen record members = .ok result) :
    match (members.filterMap Member.pair?).lookup f.key with
    | none => f.get result = f.get record
    | some node => f.read node = .ok (f.get result) := by
  induction members generalizing seen record with
  | nil =>
    obtain rfl := Except.ok.inj h
    rfl
  | cons member rest ih =>
    cases member with
    | broken fault => cases h
    | entry key atKey node atValue =>
      simp only [List.filterMap_cons, Member.pair?, List.lookup_cons]
      by_cases hkey : f.key = key
      · -- The member itself: the part stays as it was read, as what follows does not come back
        -- to the key.
        subst hkey
        rcases members_entry_eq_ok h with ⟨g, hg, hkey, -, content, hread, hrest⟩ | ⟨hunknown, -⟩
        · obtain rfl := eq_of_key_eq hg hf hkey
          have hpart := ih hrest
          rw [lookup_eq_none_of_mem_seen hrest hf List.mem_cons_self] at hpart
          simp only [beq_self_eq_true]
          rw [hpart, g.get_set]
          exact hread
        · exact absurd (key_mem_fields hf) hunknown
      · -- Another member, which leaves the part as it is.
        simp only [beq_eq_false_iff_ne.mpr hkey]
        rcases members_entry_eq_ok h with
          ⟨g, hg, rfl, -, content, -, hrest⟩ | ⟨-, value, -, hrest⟩
        · rw [← get_set_of_ne hf hg (Ne.symm hkey) record content]
          exact ih hrest
        · rw [← get_keep hf record key value]
          exact ih hrest

/-- **The part of a field** is what is read out of its member, or what an empty structure has
there. -/
theorem of_read (hf : f ∈ schema.table) (h : schema.read node = .ok record) :
    match node.members.lookup f.key with
    | none => f.get record = f.default
    | some value => f.read value = .ok (f.get record) := by
  obtain ⟨start, members, rfl, hmembers⟩ := exists_of_read_eq_ok h
  rw [← schema.get_empty f hf]
  exact of_members hf hmembers

/-! ## Parts of a structure -/

section Parts

variable {key : String} {inner : Reader β}

/-- A part that may be missing is there exactly if its member is neither absent nor null. -/
theorem rel_member? {get : α → Option β} {set : α → Option β → α}
    {get_set : ∀ record content, get (set record content) = content}
    {set_get : ∀ record, set record (get record) = record}
    (hf : .optional key inner get set get_set set_get ∈ schema.table)
    (h : schema.read node = .ok record) :
    Option.Rel (fun value held => inner value = .ok held) (node.member? key) (get record) := by
  have hread := of_read hf h
  unfold Node.member?
  dsimp only at hread
  cases hlookup : node.members.lookup key with
  | none =>
    rw [hlookup] at hread
    rw [show get record = none from hread]
    exact .none
  | some value =>
    rw [hlookup] at hread
    rcases optional_eq_ok hread with ⟨hnull, hnone⟩ | ⟨hnull, held, hheld, hsome⟩
    · rw [hnone, Option.filter_some, if_neg (by simp [hnull])]
      exact .none
    · rw [hsome, Option.filter_some, if_pos (by simp [hnull])]
      exact .some hheld

/-- A list that may be missing is read part by part. -/
theorem forall₂_parts_of_optional {get : α → Option (List β)} {set : α → Option (List β) → α}
    {get_set : ∀ record content, get (set record content) = content}
    {set_get : ∀ record, set record (get record) = record}
    (hf : .optional key (listOf inner) get set get_set set_get ∈ schema.table)
    (h : schema.read node = .ok record) :
    List.Forall₂ (fun node value => inner node = .ok value) (node.parts key)
      ((get record).getD []) := by
  have hrel := rel_member? hf h
  unfold Node.parts
  revert hrel
  cases node.member? key <;> cases get record <;> rintro (hread | _)
  · exact .nil
  · exact forall₂_of_listOf hread

variable {default : β}

/-- A part with a default is read out of its member, if this is neither absent nor null. -/
theorem of_member? {get : α → β} {set : α → β → α}
    {get_set : ∀ record content, get (set record content) = content}
    {set_get : ∀ record, set record (get record) = record}
    (hf : .orDefault key default inner get set get_set set_get ∈ schema.table)
    (h : schema.read node = .ok record) :
    match node.member? key with
    | none => get record = default
    | some value => inner value = .ok (get record) := by
  have hread := of_read hf h
  unfold Node.member?
  dsimp only at hread
  cases hlookup : node.members.lookup key with
  | none =>
    rw [hlookup] at hread
    exact hread
  | some value =>
    rw [hlookup] at hread
    rcases orDefault_eq_ok hread with ⟨hnull, hdefault⟩ | ⟨hnull, hheld⟩
    · rw [Option.filter_some, if_neg (by simp [hnull])]
      exact hdefault
    · rw [Option.filter_some, if_pos (by simp [hnull])]
      exact hheld

/-- A list that is empty by default is read part by part. -/
theorem forall₂_parts_of_orDefault {get : α → List β} {set : α → List β → α}
    {get_set : ∀ record content, get (set record content) = content}
    {set_get : ∀ record, set record (get record) = record}
    (hf : .orDefault key [] (listOf inner) get set get_set set_get ∈ schema.table)
    (h : schema.read node = .ok record) :
    List.Forall₂ (fun node value => inner node = .ok value) (node.parts key) (get record) := by
  have hread := of_member? hf h
  unfold Node.parts
  cases hmember : node.member? key with
  | none =>
    rw [hmember] at hread
    rw [hread]
    exact .nil
  | some value =>
    rw [hmember] at hread
    exact forall₂_of_listOf hread

/-- A table that is empty by default is read name by name. -/
theorem forall₂_table {get : α → Written β} {set : α → Written β → α}
    {get_set : ∀ record content, get (set record content) = content}
    {set_get : ∀ record, set record (get record) = record}
    (hf : .orDefault key {} (mapOf inner) get set get_set set_get ∈ schema.table)
    (h : schema.read node = .ok record) :
    List.Forall₂ (Written.Corresponds fun node value => inner node = .ok value)
      (node.table key) (get record).entries := by
  have hread := of_member? hf h
  unfold Node.table
  cases hmember : node.member? key with
  | none =>
    rw [hmember] at hread
    rw [hread]
    exact .nil
  | some value =>
    rw [hmember] at hread
    exact forall₂_of_mapOf hread

end Parts

/-! ## Unknown members -/

/-- Members behind each other add the keys that are no fields, in strict order. -/
theorem keys_of_members (h : schema.members seen record members = .ok result)
    (hsorted : (schema.unknown record).keys.Pairwise (· < ·)) :
    (schema.unknown result).keys.Pairwise (· < ·) ∧ ∀ key, key ∈ (schema.unknown result).keys ↔
      key ∈ (schema.unknown record).keys ∨
        key ∈ (members.filterMap Member.pair?).map (·.1) ∧ key ∉ schema.fields := by
  induction members generalizing seen record with
  | nil =>
    obtain rfl := Except.ok.inj h
    exact ⟨hsorted, fun key => by simp⟩
  | cons member rest ih =>
    cases member with
    | broken fault => cases h
    | entry other atKey node atValue =>
      rcases members_entry_eq_ok h with
        ⟨f, hf, rfl, -, content, -, hrest⟩ | ⟨hfield, value, -, hrest⟩
      · -- A field is not kept.
        have hsame := schema.unknown_set f hf record content
        obtain ⟨hresult, hmem⟩ := ih hrest (hsame ▸ hsorted)
        refine ⟨hresult, fun key => ?_⟩
        rw [hmem, hsame]
        simp only [List.filterMap_cons, Member.pair?, List.map_cons, List.mem_cons]
        constructor
        · rintro (hkey | ⟨hkey, hnot⟩)
          · exact Or.inl hkey
          · exact Or.inr ⟨Or.inr hkey, hnot⟩
        · rintro (hkey | ⟨rfl | hkey, hnot⟩)
          · exact Or.inl hkey
          · exact absurd (key_mem_fields hf) hnot
          · exact Or.inr ⟨hkey, hnot⟩
      · -- Any other member is.
        have hkept := unknown_keep schema record other value
        obtain ⟨hresult, hmem⟩ := ih hrest (hkept ▸ Keyed.pairwise_keys_set other value hsorted)
        refine ⟨hresult, fun key => ?_⟩
        rw [hmem, hkept, Keyed.mem_keys_set]
        simp only [List.filterMap_cons, Member.pair?, List.map_cons, List.mem_cons]
        constructor
        · rintro ((rfl | hkey) | ⟨hkey, hnot⟩)
          · exact Or.inr ⟨Or.inl rfl, hfield⟩
          · exact Or.inl hkey
          · exact Or.inr ⟨Or.inr hkey, hnot⟩
        · rintro (hkey | ⟨rfl | hkey, hnot⟩)
          · exact Or.inl (Or.inr hkey)
          · exact Or.inl (Or.inl rfl)
          · exact Or.inr ⟨hkey, hnot⟩

/-- **The keys that a structure keeps** are those of its object that are no fields. -/
theorem keys_of_read (h : schema.read node = .ok record) :
    (schema.unknown record).keys = node.unknownKeys schema.fields := by
  obtain ⟨start, members, rfl, hmembers⟩ := exists_of_read_eq_ok h
  have hempty : (schema.unknown schema.empty).keys = [] := by rw [schema.unknown_empty]; rfl
  obtain ⟨hsorted, hmem⟩ := keys_of_members hmembers (by rw [hempty]; exact .nil)
  refine Keyed.eq_inByteOrder hsorted fun key => ?_
  rw [hmem, hempty, List.mem_filter, decide_eq_true_iff]
  simp [Node.members]

end Schema

end Declaration

end Stencil
