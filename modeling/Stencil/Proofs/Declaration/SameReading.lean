import Stencil.Declaration.Read
import Stencil.Proofs.Declaration.Reading
import Stencil.Proofs.Json.SameValue

/-!
# Trees that are read alike

A relation between trees goes along with a reader if trees that are related are read as values of
which some part is the same. Trees with the same value are related for the readers of texts, truth
values and the like; the relations for lists, tables and structures are made from those for their
items, their members and their fields. A structure looks at the members of its fields only, so
members with other keys may be anything and stand anywhere.

## Main definitions

* `Node.NullOr R`, `Node.Itemwise R`, `Node.Memberwise R`, `Node.Fieldwise fields R`: relations
  between trees, from relations between their parts
* `ReadsAlike R read known`: what `R` relates is read as values with the same part `known`
* `ReadsValue read`: what is read of a tree is a matter of its value
* `Field.ReadsAlike R known`, `Schema.ReadsFieldsAlike R known`: fields of a structure are read
  alike

## Main results

* `ReadsAlike.listOf`, `ReadsAlike.mapOf`: lists and tables
* `Schema.ReadsFieldsAlike.readsAlike`: structures
-/

namespace Stencil

/-! ## Related lists and tables -/

theorem map_eq_map_of_forall₂ {α β γ : Type} {R : α → α → Prop} {P : α → β → Prop} {f : β → γ}
    {as bs : List α} {vs ws : List β} (h : List.Forall₂ R as bs) (hvs : List.Forall₂ P as vs)
    (hws : List.Forall₂ P bs ws)
    (hf : ∀ ⦃a b : α⦄ ⦃v w : β⦄, R a b → P a v → P b w → f v = f w) : vs.map f = ws.map f := by
  induction h generalizing vs ws with
  | nil =>
    cases hvs
    cases hws
    rfl
  | cons hab _ ih =>
    obtain _ | ⟨hv, hvs⟩ := hvs
    obtain _ | ⟨hw, hws⟩ := hws
    rw [List.map_cons, List.map_cons, hf hab hv hw, ih hvs hws]

namespace Written

variable {α β : Type}

/-- The pairs with a function applied to their values. -/
def mapValues (f : α → β) (written : Written α) : Written β where
  entries := written.entries.map fun entry => (entry.1, f entry.2)
  nodup_keys := by
    rw [List.map_map]
    exact written.nodup_keys

theorem eq_of_entries_eq {left right : Written α} (h : left.entries = right.entries) :
    left = right := by
  cases left
  cases right
  cases h
  rfl

end Written

/-! ## Related trees -/

namespace Json.Node

variable (R : Node → Node → Prop) (left right : Node)

/-- Both trees are null or none of them, and then they are related. -/
def NullOr : Prop := left.isNull = right.isNull ∧ (left.isNull = false → R left right)

/-- The items of two lists are related one by one. -/
def Itemwise : Prop := List.Forall₂ R left.items right.items

/-- The members of two objects have the same keys in one order, and their values are related. -/
def Memberwise : Prop := List.Forall₂ (Written.Corresponds R) left.members right.members

/-- The members of two objects whose keys are fields have the same keys in one order, and the
values for a key are related as `R` says for it. All other members are left out. -/
def Fieldwise (fields : List String) (R : String → Node → Node → Prop) : Prop :=
  List.Forall₂ (fun p q => p.1 = q.1 ∧ R p.1 p.2 q.2)
    (left.members.filter (·.1 ∈ fields)) (right.members.filter (·.1 ∈ fields))

instance [DecidableRel R] : DecidableRel (NullOr R) := fun left right =>
  inferInstanceAs (Decidable (left.isNull = right.isNull ∧ (left.isNull = false → R left right)))

instance [DecidableRel R] : DecidableRel (Itemwise R) := fun left right =>
  inferInstanceAs (Decidable (List.Forall₂ R left.items right.items))

instance [DecidableRel R] : DecidableRel (Memberwise R) := fun left right =>
  inferInstanceAs (Decidable (List.Forall₂ (fun p q => p.1 = q.1 ∧ R p.2 q.2)
    left.members right.members))

instance (fields : List String) (R : String → Node → Node → Prop) [∀ key, DecidableRel (R key)] :
    Decidable (left.Fieldwise right fields R) :=
  inferInstanceAs (Decidable (List.Forall₂ (fun p q => p.1 = q.1 ∧ R p.1 p.2 q.2)
    (left.members.filter (·.1 ∈ fields)) (right.members.filter (·.1 ∈ fields))))

end Json.Node

namespace Declaration

open Json Node

variable {α β : Type} {R : Node → Node → Prop} {read : Reader α} {known : α → β}

/-- What is related is read as values with the same part. -/
def ReadsAlike (R : Node → Node → Prop) (read : Reader α) (known : α → β) : Prop :=
  ∀ ⦃left right : Node⦄ ⦃value other : α⦄, R left right → read left = .ok value →
    read right = .ok other → known value = known other

namespace ReadsAlike

theorem optional (h : ReadsAlike R read known) :
    ReadsAlike (NullOr R) (optional read) (Option.map known) := by
  rintro left right value other ⟨hnull, hrelated⟩ hleft hright
  rcases optional_eq_ok hleft with ⟨hnullLeft, rfl⟩ | ⟨hnullLeft, v, hv, rfl⟩
  · rcases optional_eq_ok hright with ⟨-, rfl⟩ | ⟨hnullRight, -⟩
    · rfl
    · cases hnullLeft.symm.trans (hnull.trans hnullRight)
  · rcases optional_eq_ok hright with ⟨hnullRight, -⟩ | ⟨-, w, hw, rfl⟩
    · cases hnullLeft.symm.trans (hnull.trans hnullRight)
    · exact congrArg some (h (hrelated hnullLeft) hv hw)

/-- A default stands for the value that is not there. -/
theorem exists_optional_of_orDefault {default value : α} {node : Node}
    (h : orDefault default read node = .ok value) :
    ∃ held, Declaration.optional read node = .ok held ∧ value = held.getD default := by
  unfold orDefault at h
  split at h
  · exact ⟨none, rfl, (Except.ok.inj h).symm⟩
  · rename_i hnull
    refine ⟨some value, ?_, rfl⟩
    unfold Declaration.optional
    split
    · exact (hnull _ rfl).elim
    · rw [h]
      rfl

theorem orDefault (h : ReadsAlike R read known) (default : α) :
    ReadsAlike (NullOr R) (orDefault default read) known := by
  intro left right value other hrelated hleft hright
  obtain ⟨held, hheld, rfl⟩ := exists_optional_of_orDefault hleft
  obtain ⟨held', hheld', rfl⟩ := exists_optional_of_orDefault hright
  rw [← Option.getD_map known, ← Option.getD_map known, h.optional hrelated hheld hheld']

/-- Lists are read item by item. -/
theorem listOf (h : ReadsAlike R read known) :
    ReadsAlike (Itemwise R) (listOf read) (List.map known) := by
  intro left right values others hrelated hleft hright
  exact map_eq_map_of_forall₂ hrelated (forall₂_of_listOf hleft) (forall₂_of_listOf hright) h

/-- Tables are read name by name. -/
theorem mapOf (h : ReadsAlike R read known) :
    ReadsAlike (Memberwise R) (mapOf read) (Written.mapValues known) := by
  intro left right values others hrelated hleft hright
  apply Written.eq_of_entries_eq
  refine map_eq_map_of_forall₂ (Written.forall₂_settle hrelated) (forall₂_of_mapOf hleft)
    (forall₂_of_mapOf hright) ?_
  rintro p q ⟨key, value⟩ ⟨other, held⟩ ⟨hkeys, hrelated⟩ ⟨hkey, hvalue⟩ ⟨hother, hheld⟩
  exact Prod.ext (hkey.symm.trans (hkeys.trans hother)) (h hrelated hvalue hheld)

end ReadsAlike

/-! ## Values -/

/-- What is read of a tree is a matter of its value. -/
class ReadsValue (read : Reader α) : Prop where
  readsAlike : ReadsAlike SameValue read id

section Values

variable {node : Node}

theorem value_of_text {s : String} (h : text node = .ok s) : node.value = .ok (.text s) := by
  unfold text at h
  split at h
  · obtain rfl := Except.ok.inj h
    rfl
  · exact absurd h mismatch_ne_ok

theorem value_of_boolean {b : Bool} (h : boolean node = .ok b) :
    node.value = .ok (.boolean b) := by
  unfold boolean at h
  split at h
  · obtain rfl := Except.ok.inj h
    rfl
  · exact absurd h mismatch_ne_ok

theorem value_of_integer {n : Int} (h : integer node = .ok n) :
    node.value = .ok (.number (.whole n)) := by
  unfold integer at h
  split at h
  · split at h
    · obtain rfl := Except.ok.inj h
      rfl
    · cases h
  · exact absurd h mismatch_ne_ok

theorem value_of_anything {value : Value} (h : anything node = .ok value) :
    node.value = .ok value := by
  unfold anything at h
  split at h
  · rename_i held hheld
    rw [hheld, Except.ok.inj h]
  · cases h

/-- What is read of a tree is read of its value. -/
theorem ReadsValue.of_value {read : Reader α} (encode : α → Value)
    (hencode : Function.Injective encode)
    (h : ∀ {node value}, read node = .ok value → node.value = .ok (encode value)) :
    ReadsValue read where
  readsAlike := by
    rintro left right value other ⟨held, hleft, hright⟩ hvalue hother
    rw [h hvalue] at hleft
    rw [h hother] at hright
    exact hencode (Except.ok.inj (hleft.trans hright.symm))

instance : ReadsValue text := .of_value .text (fun _ _ h => Value.text.inj h) value_of_text

instance : ReadsValue boolean :=
  .of_value .boolean (fun _ _ h => Value.boolean.inj h) value_of_boolean

instance : ReadsValue integer :=
  .of_value (fun n => .number (.whole n))
    (fun _ _ h => Number.whole.inj (Value.number.inj h)) value_of_integer

instance : ReadsValue anything := .of_value id Function.injective_id value_of_anything

/-- The value that a mark is read of. -/
def Deprecation.value : Deprecation → Value
  | flag b => .boolean b
  | text s => .text s

theorem value_of_deprecation {mark : Deprecation} (h : deprecation node = .ok mark) :
    node.value = .ok mark.value := by
  obtain ⟨value, hvalue, h⟩ := exists_of_bind_eq_ok h
  rw [value_of_anything hvalue]
  split at h
  · obtain rfl := Except.ok.inj h
    rfl
  · obtain rfl := Except.ok.inj h
    rfl
  · cases h

instance : ReadsValue deprecation := by
  refine .of_value Deprecation.value ?_ value_of_deprecation
  rintro (b | s) (b' | s') h
  -- A truth value and a text are two values, so that the marks are of one kind.
  · rw [Value.boolean.inj h]
  · cases h
  · cases h
  · rw [Value.text.inj h]

theorem isNull_iff : node.isNull = true ↔ node.value = .ok .null := by
  cases node with
  | broken fault => exact iff_of_false Bool.false_ne_true nofun
  | scalar value stop => cases value <;> simp [isNull, Node.value, Scalar.value]
  | list start items =>
    refine iff_of_false Bool.false_ne_true fun h => ?_
    obtain ⟨values, -, hvalue⟩ := exists_of_map_eq_ok h
    cases hvalue
  | object start members =>
    refine iff_of_false Bool.false_ne_true fun h => ?_
    obtain ⟨values, -, hvalue⟩ := exists_of_map_eq_ok h
    cases hvalue

/-- Trees with the same value are both null or none. -/
theorem nullOr_of_sameValue {left right : Node} (h : left.SameValue right) :
    NullOr SameValue left right := by
  refine ⟨?_, fun _ => h⟩
  obtain ⟨value, hleft, hright⟩ := h
  rw [Bool.eq_iff_iff, isNull_iff, isNull_iff, hleft, hright]

theorem exists_list_of_listOf {read : Reader α} {values : List α}
    (h : listOf read node = .ok values) : ∃ start items, node = .list start items := by
  unfold listOf at h
  split at h
  · exact ⟨_, _, rfl⟩
  · exact absurd h mismatch_ne_ok

variable (read : Reader α) [hread : ReadsValue read]

instance : ReadsValue (optional read) where
  readsAlike := by
    intro left right value other hsame hvalue hother
    have halike := hread.readsAlike.optional (nullOr_of_sameValue hsame) hvalue hother
    rwa [Option.map_id] at halike

instance (default : α) : ReadsValue (orDefault default read) where
  readsAlike := by
    intro left right value other hsame hvalue hother
    exact hread.readsAlike.orDefault default (nullOr_of_sameValue hsame) hvalue hother

instance : ReadsValue (listOf read) where
  readsAlike := by
    intro left right values others hsame hvalues hothers
    have hitems : Itemwise SameValue left right := by
      obtain ⟨start, items, rfl⟩ := exists_list_of_listOf hvalues
      obtain ⟨start', items', rfl⟩ := exists_list_of_listOf hothers
      exact hsame.forall₂_items
    have halike := hread.readsAlike.listOf hitems hvalues hothers
    rwa [List.map_id, List.map_id] at halike

end Values

/-! ## Structures -/

section Structures

variable {schema : Schema α} {R : String → Node → Node → Prop} {known : α → α}

/-- What is known of a structure with a value in the field is known of the structure and of the
value, and the value is read alike. -/
def Field.ReadsAlike (f : Field α) (R : Node → Node → Prop) (known : α → α) : Prop :=
  ∃ part : f.Content → f.Content,
    (∀ record content, known (f.set record content) = f.set (known record) (part content)) ∧
      Declaration.ReadsAlike R f.read part

/-- A field whose value is known as it stands. -/
theorem Field.ReadsAlike.of_value {f : Field α} [hread : ReadsValue f.read]
    (h : ∀ record content, known (f.set record content) = f.set (known record) content) :
    f.ReadsAlike SameValue known :=
  ⟨id, h, hread.readsAlike⟩

/-- All fields of a structure are read alike of related values, and members that are no fields do
not count. -/
structure Schema.ReadsFieldsAlike (schema : Schema α) (R : String → Node → Node → Prop)
    (known : α → α) : Prop where
  field : ∀ f ∈ schema.table, f.ReadsAlike (R f.key) known
  keep : ∀ record unknown, known (schema.setUnknown record unknown) = known record

namespace Schema.ReadsFieldsAlike

/-- The members of an object whose keys are fields. -/
def fieldsOf (schema : Schema α) (members : List Member) : List (String × Node) :=
  (members.filterMap Member.pair?).filter (·.1 ∈ schema.fields)

/-- What is read of members up to the first one that is a field, and of this one. -/
theorem exists_first_field (h : schema.ReadsFieldsAlike R known) {seen : List String}
    {record result : α} {members : List Member}
    (hread : schema.members seen record members = .ok result) :
    match fieldsOf schema members with
    | [] => known result = known record
    | (key, node) :: fields => ∃ f ∈ schema.table, f.key = key ∧
        ∃ held content seen' rest, known held = known record ∧ f.read node = .ok content ∧
          schema.members seen' (f.set held content) rest = .ok result ∧
          fieldsOf schema rest = fields := by
  induction members generalizing seen record with
  | nil =>
    obtain rfl := Except.ok.inj hread
    rfl
  | cons member members ih =>
    cases member with
    | broken fault => cases hread
    | entry key atKey node atValue =>
      rcases members_entry_eq_ok hread with
        ⟨f, hf, rfl, -, content, hcontent, hrest⟩ | ⟨hunknown, value, -, hrest⟩
      · have hfields : fieldsOf schema (.entry f.key atKey node atValue :: members) =
            (f.key, node) :: fieldsOf schema members := by
          simp [fieldsOf, Member.pair?, key_mem_fields hf]
        rw [hfields]
        exact ⟨f, hf, rfl, record, content, _, members, rfl, hcontent, hrest, rfl⟩
      · -- A member that is no field leaves what is known as it is.
        have hfields : fieldsOf schema (.entry key atKey node atValue :: members) =
            fieldsOf schema members := by
          simp [fieldsOf, Member.pair?, hunknown]
        have hkept := ih hrest
        rw [Schema.keep, h.keep] at hkept
        rwa [hfields]

theorem members (h : schema.ReadsFieldsAlike R known) {fields fields' : List (String × Node)}
    (hfields : List.Forall₂ (fun p q => p.1 = q.1 ∧ R p.1 p.2 q.2) fields fields')
    {seen seen' : List String} {record other result result' : α}
    {members members' : List Member} (hleft : fieldsOf schema members = fields)
    (hright : fieldsOf schema members' = fields') (hknown : known record = known other)
    (hread : schema.members seen record members = .ok result)
    (hread' : schema.members seen' other members' = .ok result') :
    known result = known result' := by
  -- Induction on the fields that are related and not on members: what stands between two fields
  -- may be of any length on each side.
  have hfirst := h.exists_first_field hread
  have hfirst' := h.exists_first_field hread'
  rw [hleft] at hfirst
  rw [hright] at hfirst'
  induction hfields generalizing seen seen' record other members members' with
  | nil => rw [hfirst, hfirst', hknown]
  | @cons p q fields fields' hpair hrest ih =>
    obtain ⟨key, node⟩ := p
    obtain ⟨_, node'⟩ := q
    obtain ⟨rfl, hrelated⟩ := hpair
    obtain ⟨f, hf, rfl, held, content, seen, rest, hheld, hcontent, hread, hrestLeft⟩ := hfirst
    obtain ⟨g, hg, hkey, held', content', seen', rest', hheld', hcontent', hread', hrestRight⟩ :=
      hfirst'
    obtain rfl := eq_of_key_eq hg hf hkey
    obtain ⟨part, hset, halike⟩ := h.field g hf
    have hknownNext : known (g.set held content) = known (g.set held' content') := by
      rw [hset, hset, halike hrelated hcontent hcontent', hheld, hheld', hknown]
    have hfirst := h.exists_first_field hread
    have hfirst' := h.exists_first_field hread'
    rw [hrestLeft] at hfirst
    rw [hrestRight] at hfirst'
    exact ih hrestLeft hrestRight hknownNext hread hread' hfirst hfirst'

/-- **Structures** are read alike whatever their objects hold besides the fields. -/
theorem readsAlike (h : schema.ReadsFieldsAlike R known) :
    ReadsAlike (fun left right => left.Fieldwise right schema.fields R) schema.read known := by
  intro left right record other hfields hleft hright
  obtain ⟨start, members, rfl, hmembers⟩ := exists_of_read_eq_ok hleft
  obtain ⟨start', members', rfl, hmembers'⟩ := exists_of_read_eq_ok hright
  exact h.members hfields rfl rfl rfl hmembers hmembers'

end Schema.ReadsFieldsAlike

end Structures

end Declaration

end Stencil
