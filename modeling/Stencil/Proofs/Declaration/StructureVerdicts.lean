import Stencil.Proofs.Declaration.PlainReferences
import Stencil.Proofs.Declaration.Positions
import Stencil.Proofs.Declaration.Verdicts

/-!
# Complaints about structures in relation

Two objects with their places and texts in relation are read side by side as one structure. Only two
things are asked of the keys: one that is a field is the same on both sides, and one that becomes a
field is `ref`. What may be complained about a reference depends on the two objects that hold it.

## Main definitions

* `HeldIn root root' part`, `Referring root root'`: objects that are read as one structure, and
  those that are read as one with a reference
* `ReferenceVerdict root root' P S V`: a relation between complaints that structures can respect

## Main results

* `Schema.FieldsAgree.read`: a structure respects what its fields respect
* `schema_agrees`: whole declarations
-/

namespace Stencil.Declaration

open Json

variable {α : Type}

/-- A key that is in no way spelled with a reference, or `ref` itself. -/
def IsPlainKey (key : String) : Prop :=
  '$' ∉ key.toList ∧ (marked 0 <:+: key.toList → key = "ref")

instance : DecidablePred IsPlainKey := fun _ => inferInstanceAs (Decidable (_ ∧ _))

/-- Trees on both sides that are read as one structure, each below its root. -/
def HeldIn (root root' : Node) (part : Part) (node node' : Node) : Prop :=
  Holds root part node ∧ Holds root' part node'

/-- Objects on both sides that are read as one structure with a reference. -/
def Referring (root root' object object' : Node) : Prop :=
  ∃ part : Part, "ref" ∈ part.fields ∧ HeldIn root root' part object object'

/-- Values of a member of objects that stand in some way. -/
def MemberOf (At : Node → Node → Prop) (key : String) (value value' : Node) : Prop :=
  ∃ object object', At object object' ∧ (key, value) ∈ object.members ∧
    (key, value') ∈ object'.members

/-- The same with a judgement of references in the trees below two roots. -/
class ReferenceVerdict (root root' : Node) (P : Place → Place → Prop) (S : String → String → Prop)
    (V : Option Complaint → Option Complaint → Prop) : Prop extends Verdict P S V where
  /-- A key is the same on both sides, or it is no field on the left; if it is one on the right, it
  is that of a reference. -/
  key : ∀ {key key'}, S key key' →
    key' = key ∨ ¬ IsPlainKey key ∧ (IsPlainKey key' → key' = "ref")
  /-- Of a member that becomes a reference nothing is known on the left. -/
  becomes : ∀ {start start' members members' key atKey node atValue atKey' node' atValue'},
    Referring root root' (.object start members) (.object start' members') →
    .entry key atKey node atValue ∈ members → .entry "ref" atKey' node' atValue' ∈ members' →
    Member.Shifted P S (.entry key atKey node atValue) (.entry "ref" atKey' node' atValue') →
    key ≠ "ref" → V (complaint? (anything node))
      ((complaint? (optional text node')).map (Complaint.settledAt atValue'))
  /-- The second one of two references, not both of which are references on the left. -/
  second : ∀ {start start' members members' first atFirst held atHeld atFirst' held' atHeld' key
      atKey node atValue atKey' node' atValue'},
    Referring root root' (.object start members) (.object start' members') →
    [.entry first atFirst held atHeld, .entry key atKey node atValue].Sublist members →
    [.entry "ref" atFirst' held' atHeld', .entry "ref" atKey' node' atValue'].Sublist members' →
    Member.Shifted P S (.entry first atFirst held atHeld) (.entry "ref" atFirst' held' atHeld') →
    Member.Shifted P S (.entry key atKey node atValue) (.entry "ref" atKey' node' atValue') →
    first ≠ "ref" ∨ key ≠ "ref" → ∀ x, V x (some ⟨.duplicateField "ref", some atKey'⟩)

/-! ## Structures in general -/

section Structures

variable {root root' : Node} {P : Place → Place → Prop} {S : String → String → Prop}
  {V : Option Complaint → Option Complaint → Prop} {part : Part} {schema : Schema α}

theorem Part.isPlainKey (part : Part) : ∀ key ∈ part.fields, IsPlainKey key := by
  cases part <;> decide +kernel

/-- The fields of a structure are those of the part, and each is read as the verdict says; that of a
reference holds a text or null. -/
structure Schema.FieldsAgree (root root' : Node) (P : Place → Place → Prop)
    (S : String → String → Prop) (V : Option Complaint → Option Complaint → Prop) (part : Part)
    (schema : Schema α) : Prop where
  fields_eq : schema.fields = part.fields
  field : ∀ f ∈ schema.table, Agrees (MemberOf (HeldIn root root' part) f.key) P S V f.read
  reference : ∀ f ∈ schema.table, f.key = "ref" →
    ∀ node, complaint? (f.read node) = complaint? (optional text node)

/-- The keys that were read of the members in front, on both sides: those read on the left were read
on the right, and only a reference may have been read on the right alone. -/
structure SeenBefore (P : Place → Place → Prop) (S : String → String → Prop)
    (before before' : List Member) (seen seen' : List String) : Prop where
  left : ∀ key ∈ seen, key ∈ seen'
  right : ∀ key ∈ seen', key ∈ seen ∨ key = "ref"
  reference : "ref" ∈ seen' → ∃ first atFirst held atHeld atFirst' held' atHeld',
    .entry first atFirst held atHeld ∈ before ∧ .entry "ref" atFirst' held' atHeld' ∈ before' ∧
      Member.Shifted P S (.entry first atFirst held atHeld)
        (.entry "ref" atFirst' held' atHeld') ∧ (first = "ref" → "ref" ∈ seen)

namespace SeenBefore

variable {before before' : List Member} {seen seen' : List String} {key : String}
  {atKey atKey' atValue atValue' : Place} {node node' : Node}

theorem nil : SeenBefore P S [] [] [] [] :=
  ⟨List.forall_mem_nil _, List.forall_mem_nil _, fun h => absurd h List.not_mem_nil⟩

/-- A member that is no field on either side. -/
theorem unknown (h : SeenBefore P S before before' seen seen') (member member' : Member) :
    SeenBefore P S (before ++ [member]) (before' ++ [member']) seen seen' where
  left := h.left
  right := h.right
  reference href := by
    obtain ⟨first, atFirst, held, atHeld, atFirst', held', atHeld', hmem, hmem', hshifted,
      hfirst⟩ := h.reference href
    exact ⟨first, atFirst, held, atHeld, atFirst', held', atHeld',
      List.mem_append_left _ hmem, List.mem_append_left _ hmem', hshifted, hfirst⟩

/-- A member that is the same field on both sides. -/
theorem field (h : SeenBefore P S before before' seen seen')
    (hshifted : Member.Shifted P S (.entry key atKey node atValue)
      (.entry key atKey' node' atValue')) :
    SeenBefore P S (before ++ [.entry key atKey node atValue])
      (before' ++ [.entry key atKey' node' atValue']) (key :: seen) (key :: seen') where
  left other hother := List.mem_cons.mpr ((List.mem_cons.mp hother).imp_right (h.left other))
  right other hother := by
    rcases List.mem_cons.mp hother with rfl | hother
    · exact Or.inl List.mem_cons_self
    · exact (h.right other hother).imp_left (List.mem_cons_of_mem key)
  reference href := by
    rcases List.mem_cons.mp href with rfl | href
    · exact ⟨_, _, _, _, _, _, _, List.mem_concat_self, List.mem_concat_self, hshifted,
        fun _ => List.mem_cons_self⟩
    · obtain ⟨first, atFirst, held, atHeld, atFirst', held', atHeld', hmem, hmem', hfirst, hseen⟩ :=
        h.reference href
      exact ⟨first, atFirst, held, atHeld, atFirst', held', atHeld',
        List.mem_append_left _ hmem, List.mem_append_left _ hmem', hfirst,
        fun heq => List.mem_cons_of_mem key (hseen heq)⟩

/-- A member that becomes a reference. -/
theorem becomes (h : SeenBefore P S before before' seen seen') (hne : key ≠ "ref")
    (hshifted : Member.Shifted P S (.entry key atKey node atValue)
      (.entry "ref" atKey' node' atValue')) :
    SeenBefore P S (before ++ [.entry key atKey node atValue])
      (before' ++ [.entry "ref" atKey' node' atValue']) seen ("ref" :: seen') where
  left other hother := List.mem_cons_of_mem "ref" (h.left other hother)
  right other hother := by
    rcases List.mem_cons.mp hother with rfl | hother
    · exact Or.inr rfl
    · exact h.right other hother
  reference _ := ⟨_, _, _, _, _, _, _, List.mem_concat_self, List.mem_concat_self, hshifted,
    fun heq => absurd heq hne⟩

end SeenBefore

theorem Schema.FieldsAgree.mem_fields (hschema : schema.FieldsAgree root root' P S V part)
    {f : Field α} (hf : f ∈ schema.table) : f.key ∈ part.fields :=
  hschema.fields_eq ▸ key_mem_fields hf

variable {start start' : Place} {before before' rest rest' : List Member} {key key' : String}
  {atKey atKey' atValue atValue' : Place} {node node' : Node} {seen seen' : List String}
  [hV : ReferenceVerdict root root' P S V]

/-- A second reference in an object that was read up to it. -/
theorem SeenBefore.second (hseen : SeenBefore P S before before' seen seen')
    (hkey : "ref" ∈ part.fields)
    (hobject : HeldIn root root' part
      (.object start (before ++ .entry key atKey node atValue :: rest))
      (.object start' (before' ++ .entry "ref" atKey' node' atValue' :: rest')))
    (hshifted : Member.Shifted P S (.entry key atKey node atValue)
      (.entry "ref" atKey' node' atValue'))
    (hmem : "ref" ∈ seen') (hne : "ref" ∉ seen ∨ key ≠ "ref") (x : Option Complaint) :
    V x (some ⟨.duplicateField "ref", some atKey'⟩) := by
  obtain ⟨first, atFirst, held, atHeld, atFirst', held', atHeld', hmem, hmem', hfirst, hin⟩ :=
    hseen.reference hmem
  have hpair : ∀ {first second : Member} {before rest : List Member}, first ∈ before →
      [first, second].Sublist (before ++ second :: rest) := fun h =>
    List.Sublist.append (List.singleton_sublist.mpr h)
      (List.singleton_sublist.mpr List.mem_cons_self)
  exact hV.second ⟨part, hkey, hobject⟩ (hpair hmem) (hpair hmem') hfirst hshifted
    (hne.imp_left (mt hin)) x

namespace Schema.FieldsAgree

variable (hschema : schema.FieldsAgree root root' P S V part) {f : Field α}

include hV hschema

/-- The value of the same field on both sides. -/
theorem field_agrees (hf : f ∈ schema.table)
    (hobject : HeldIn root root' part
      (.object start (before ++ .entry f.key atKey node atValue :: rest))
      (.object start' (before' ++ .entry f.key atKey' node' atValue' :: rest')))
    (hvalue : node.Shifted P S node') (hatValue : P atValue atValue') (record record' : α) :
    V (complaint? (settled atValue (schema.field record f.key node)))
      (complaint? (settled atValue' (schema.field record' f.key node'))) := by
  rw [complaint?_settled, complaint?_settled, field_of_mem hf, field_of_mem hf, Field.readInto,
    Field.readInto, complaint?_map, complaint?_map]
  have hmem : ∀ {start} {before rest : List Member} {atKey node atValue},
      (f.key, node) ∈
        (Node.object start (before ++ .entry f.key atKey node atValue :: rest)).members :=
    List.mem_filterMap.mpr ⟨_, List.mem_append_right _ List.mem_cons_self, rfl⟩
  exact hV.settled hatValue ((hschema.field f hf).agrees ⟨_, _, hobject, hmem, hmem⟩ hvalue)

/-- The value of a member that becomes a reference. -/
theorem becomes_agrees (hf : f ∈ schema.table) (href : f.key = "ref")
    (hobject : HeldIn root root' part
      (.object start (before ++ .entry key atKey node atValue :: rest))
      (.object start' (before' ++ .entry f.key atKey' node' atValue' :: rest')))
    (hshifted : Member.Shifted P S (.entry key atKey node atValue)
      (.entry f.key atKey' node' atValue'))
    (hne : key ≠ f.key) (record' : α) :
    V (complaint? (anything node))
      (complaint? (settled atValue' (schema.field record' f.key node'))) := by
  have hpart := hschema.mem_fields hf
  rw [complaint?_settled, field_of_mem hf, Field.readInto, complaint?_map,
    hschema.reference f hf href]
  rw [href] at hpart hobject hshifted hne
  exact hV.becomes ⟨part, hpart, hobject⟩ (List.mem_append_right _ List.mem_cons_self)
    (List.mem_append_right _ List.mem_cons_self) hshifted hne

/-- **Members** on both sides, behind members that were read. -/
theorem members (hobject : HeldIn root root' part (.object start (before ++ rest))
      (.object start' (before' ++ rest')))
    (h : List.Forall₂ (Member.Shifted P S) rest rest')
    (hseen : SeenBefore P S before before' seen seen') (record record' : α) :
    V (complaint? (schema.members seen record rest))
      (complaint? (schema.members seen' record' rest')) := by
  induction h generalizing before before' seen seen' record record' with
  | nil => exact hV.ok
  | @cons member member' rest rest' hmember _ ih =>
    cases hmember with
    | broken hfault => exact hV.faulty hfault
    | @entry key key' atKey atKey' node node' atValue atValue' hkey hatKey hvalue hatValue =>
      have hshifted : Member.Shifted P S (.entry key atKey node atValue)
        (.entry key' atKey' node' atValue') := .entry hkey hatKey hvalue hatValue
      have hnext : HeldIn root root' part
          (.object start (before ++ [.entry key atKey node atValue] ++ rest))
          (.object start' (before' ++ [.entry key' atKey' node' atValue'] ++ rest')) := by
        rw [List.append_assoc, List.append_assoc]
        exact hobject
      have hrule := hV.key hkey
      rw [Schema.members, Schema.members]
      by_cases hfield : key ∈ schema.fields
      · -- The key of a field is the same on both sides.
        obtain ⟨f, hf, rfl⟩ := exists_of_mem_fields hfield
        have hpart := hschema.mem_fields hf
        obtain rfl : key' = f.key := hrule.resolve_right fun h => h.1 (part.isPlainKey f.key hpart)
        rw [if_pos hfield, if_pos hfield]
        by_cases hleft : f.key ∈ seen
        · rw [if_pos hleft, if_pos (hseen.left f.key hleft)]
          exact hV.same _ (.some hatKey)
        by_cases hright : f.key ∈ seen'
        · -- A reference was read on the right alone.
          rw [if_pos hright]
          have href := (hseen.right f.key hright).resolve_left hleft
          rw [href] at hleft hright hpart hshifted hobject ⊢
          exact hseen.second hpart hobject hshifted hright (Or.inl hleft) _
        · rw [if_neg hleft, if_neg hright]
          refine hV.bind ?_ fun next next' _ _ => ih hnext (hseen.field hshifted) next next'
          exact hschema.field_agrees hf hobject hvalue hatValue record record'
      rw [if_neg hfield]
      by_cases hfield' : key' ∈ schema.fields
      · -- A key that becomes a field is that of a reference.
        obtain ⟨f, hf, rfl⟩ := exists_of_mem_fields hfield'
        have hpart := hschema.mem_fields hf
        have hne : key ≠ f.key := fun heq => hfield (heq ▸ hfield')
        have href := (hrule.resolve_left hne.symm).2 (part.isPlainKey f.key hpart)
        rw [if_pos hfield']
        by_cases hright : f.key ∈ seen'
        · rw [if_pos hright]
          rw [href] at hright hpart hshifted hobject hne ⊢
          exact hseen.second hpart hobject hshifted hright (Or.inr hne) _
        · rw [if_neg hright]
          refine hV.bind ?_ fun value next _ _ => ih hnext ?_ _ next
          · exact hschema.becomes_agrees hf href hobject hshifted hne record'
          · rw [href] at hshifted hne ⊢
            exact hseen.becomes hne hshifted
      · rw [if_neg hfield']
        refine hV.bind ?_ fun _ _ _ _ => ih hnext (hseen.unknown _ _) _ _
        exact @Agrees.agrees _ (fun _ _ => True) P S V anything _ _ _ trivial hvalue

/-- **Structures** on both sides: they are complained about as the verdict says if their fields
are. -/
theorem read : Agrees (HeldIn root root' part) P S V schema.read where
  agrees hat h := by
    cases h with
    | @object start start' members members' hstart hmembers =>
      exact @FieldsAgree.members _ _ _ _ _ _ _ _ start start' [] [] _ _ [] [] _ hschema hat
        hmembers .nil _ _
    | broken hfault => exact hV.mismatch (.record schema.name) (.broken hfault)
    | scalar hvalue hstop => exact hV.mismatch (.record schema.name) (.scalar hvalue hstop)
    | list hstart hitems => exact hV.mismatch (.record schema.name) (.list hstart hitems)

end Schema.FieldsAgree

end Structures

/-! ## The eight structures -/

section Parts

variable {root root' : Node} {P : Place → Place → Prop} {S : String → String → Prop}
  {V : Option Complaint → Option Complaint → Prop} {part inner : Part} {key : String}
  {read : Reader α}

/-- A structure that is a field of another one. -/
theorem Agrees.member (hread : Agrees (HeldIn root root' inner) P S V read)
    (h : ∀ {root node value}, Holds root part node → (key, value) ∈ node.members →
      Holds root inner value) :
    Agrees (MemberOf (HeldIn root root' part) key) P S V read := by
  refine hread.mono ?_
  rintro value value' ⟨node, node', ⟨hnode, hnode'⟩, hmem, hmem'⟩
  exact ⟨h hnode hmem, h hnode' hmem'⟩

section Verdicts

variable [hV : Verdict P S V]

include hV

/-- Structures in a list that is a field. -/
theorem Agrees.listed (hread : Agrees (HeldIn root root' inner) P S V read)
    (h : ∀ {root node list item}, Holds root part node → (key, list) ∈ node.members →
      item ∈ list.items → Holds root inner item) :
    Agrees (MemberOf (HeldIn root root' part) key) P S V (Declaration.listOf read) := by
  refine hread.listOf.mono ?_
  rintro list list' ⟨node, node', ⟨hnode, hnode'⟩, hlist, hlist'⟩ item hitem item' hitem'
  exact ⟨h hnode hlist hitem, h hnode' hlist' hitem'⟩

/-- Structures in a table that is a field. -/
theorem Agrees.named (hread : Agrees (HeldIn root root' inner) P S V read)
    (h : ∀ {root node table name value}, Holds root part node → (key, table) ∈ node.members →
      (name, value) ∈ table.members → Holds root inner value) :
    Agrees (MemberOf (HeldIn root root' part) key) P S V (Declaration.mapOf read) := by
  refine hread.mapOf.mono ?_
  rintro table table' ⟨node, node', ⟨hnode, hnode'⟩, htable, htable'⟩ member hmem member' hmem'
  exact ⟨h hnode htable hmem, h hnode' htable' hmem'⟩

end Verdicts

variable [hV : ReferenceVerdict root root' P S V]

instance Items.agrees : Agrees (HeldIn root root' .items) P S V Items.schema.read := by
  refine Schema.FieldsAgree.read ⟨rfl, ?_, by simp [schema]⟩
  simp only [schema, List.forall_mem_cons]
  and_intros
  all_goals first | infer_instance | exact List.forall_mem_nil _

instance Property.agrees : Agrees (HeldIn root root' .property) P S V Property.schema.read := by
  have hitems : Agrees (MemberOf (HeldIn root root' .property) "items") P S V
      (Items.schema.read) := Items.agrees.member .propertyItems
  refine Schema.FieldsAgree.read ⟨rfl, ?_, by simp [schema]⟩
  simp only [schema, List.forall_mem_cons]
  and_intros
  all_goals first | infer_instance | exact List.forall_mem_nil _

instance Model.agrees : Agrees (HeldIn root root' .model) P S V Model.schema.read := by
  have hproperties : Agrees (MemberOf (HeldIn root root' .model) "properties") P S V
      (mapOf Property.schema.read) := Property.agrees.named .property
  refine Schema.FieldsAgree.read ⟨rfl, ?_, by simp [schema]⟩
  simp only [schema, List.forall_mem_cons]
  and_intros
  all_goals first | infer_instance | exact List.forall_mem_nil _

instance ResponseMessage.agrees :
    Agrees (HeldIn root root' .responseMessage) P S V ResponseMessage.schema.read := by
  refine Schema.FieldsAgree.read ⟨rfl, ?_, by simp [schema]⟩
  simp only [schema, List.forall_mem_cons]
  and_intros
  all_goals first | infer_instance | exact List.forall_mem_nil _

instance Parameter.agrees : Agrees (HeldIn root root' .parameter) P S V Parameter.schema.read := by
  have hitems : Agrees (MemberOf (HeldIn root root' .parameter) "items") P S V
      (Items.schema.read) := Items.agrees.member .parameterItems
  refine Schema.FieldsAgree.read ⟨rfl, ?_, by simp [schema]⟩
  simp only [schema, List.forall_mem_cons]
  and_intros
  all_goals first | infer_instance | exact List.forall_mem_nil _

instance Operation.agrees : Agrees (HeldIn root root' .operation) P S V Operation.schema.read := by
  have hitems : Agrees (MemberOf (HeldIn root root' .operation) "items") P S V
      (Items.schema.read) := Items.agrees.member .operationItems
  have hparameters : Agrees (MemberOf (HeldIn root root' .operation) "parameters") P S V
      (listOf Parameter.schema.read) := Parameter.agrees.listed .parameter
  have hresponseMessages : Agrees (MemberOf (HeldIn root root' .operation) "responseMessages") P S V
      (listOf ResponseMessage.schema.read) := ResponseMessage.agrees.listed .responseMessage
  refine Schema.FieldsAgree.read ⟨rfl, ?_, by simp [schema]⟩
  simp only [schema, List.forall_mem_cons]
  and_intros
  all_goals first | infer_instance | exact List.forall_mem_nil _

instance Api.agrees : Agrees (HeldIn root root' .api) P S V Api.schema.read := by
  have hoperations : Agrees (MemberOf (HeldIn root root' .api) "operations") P S V
      (listOf Operation.schema.read) := Operation.agrees.listed .operation
  refine Schema.FieldsAgree.read ⟨rfl, ?_, by simp [schema]⟩
  simp only [schema, List.forall_mem_cons]
  and_intros
  all_goals first | infer_instance | exact List.forall_mem_nil _

instance schema_agrees : Agrees (HeldIn root root' .declaration) P S V schema.read := by
  have hapis : Agrees (MemberOf (HeldIn root root' .declaration) "apis") P S V
      (listOf Api.schema.read) := Api.agrees.listed .api
  have hmodels : Agrees (MemberOf (HeldIn root root' .declaration) "models") P S V
      (mapOf Model.schema.read) := Model.agrees.named .model
  refine Schema.FieldsAgree.read ⟨rfl, ?_, by simp [schema]⟩
  simp only [schema, List.forall_mem_cons]
  and_intros
  all_goals first | infer_instance | exact List.forall_mem_nil _

end Parts

end Stencil.Declaration
