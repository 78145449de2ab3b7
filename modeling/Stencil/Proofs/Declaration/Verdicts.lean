import Stencil.Proofs.Declaration.SameReading
import Stencil.Proofs.Json.Shifted

/-!
# Complaints about trees in relation

Two trees with their places and texts in relation are read side by side. What a reader complains
about is compared step by step: a relation between complaints that the parts of a tree respect is
respected by the whole. Where in the two trees a reader is used may be kept in mind.

## Main definitions

* `complaint?`: what a reading complains about
* `Verdict P S V`: a relation `V` between complaints that readers can respect
* `Agrees At P S V read`: a reader respects the relation where it is used

## Main results

* `Agrees.listOf`, `Agrees.mapOf`: lists and tables
-/

namespace Stencil.Declaration

open Json

variable {α β : Type}

/-- What a reading complains about. -/
def complaint? : Reading α → Option Complaint
  | .ok _ => none
  | .error c => some c

theorem exists_of_complaint? {reading : Reading α} (h : complaint? reading = none) :
    ∃ value, reading = .ok value := by
  cases reading with
  | ok value => exact ⟨value, rfl⟩
  | error c => cases h

theorem eq_error_of_complaint? {reading : Reading α} {c : Complaint}
    (h : complaint? reading = some c) : reading = .error c := by
  cases reading with
  | ok value => cases h
  | error c' => exact congrArg Except.error (Option.some.inj h)

/-- Lists with items that stand in some way. -/
def ItemsAt (At : Node → Node → Prop) (list list' : Node) : Prop :=
  ∀ item ∈ list.items, ∀ item' ∈ list'.items, At item item'

/-- Tables with values that stand in some way. -/
def ValuesAt (At : Node → Node → Prop) (table table' : Node) : Prop :=
  ∀ member ∈ table.members, ∀ member' ∈ table'.members, At member.2 member'.2

/-- A relation between what is complained about on both sides, nothing or one complaint, while trees
are read whose places are related by `P` and whose texts by `S`. -/
class Verdict (P : Place → Place → Prop) (S : String → String → Prop)
    (V : Option Complaint → Option Complaint → Prop) : Prop where
  /-- Both sides go on. -/
  ok : V none none
  /-- A complaint on the right alone is one that may always be raised. -/
  excused : ∀ {c'}, V none (some c') → ∀ x, V x (some c')
  /-- A complaint on the left alone is one that may always be missing. -/
  waived : ∀ {c}, V (some c) none → ∀ y, V (some c) y
  settled : ∀ {place place' x y}, P place place' → V x y →
    V (x.map (Complaint.settledAt place)) (y.map (Complaint.settledAt place'))
  same : ∀ (reason) {place place'}, Option.Rel P place place' →
    V (some ⟨reason, place⟩) (some ⟨reason, place'⟩)
  wrongType : ∀ {value value' : Scalar} {stop stop'} (expected), value.Alike S value' →
    P stop stop' → V (some ⟨.wrongType (.scalar value) expected, some stop⟩)
      (some ⟨.wrongType (.scalar value') expected, some stop'⟩)

/-- A reader complains as the verdict says about trees in relation that stand in some way. -/
class Agrees (At : Node → Node → Prop) (P : Place → Place → Prop) (S : String → String → Prop)
    (V : Option Complaint → Option Complaint → Prop) (read : Reader α) : Prop where
  agrees : ∀ {node node'}, At node node' → Node.Shifted P S node node' →
    V (complaint? (read node)) (complaint? (read node'))

section Readings

variable {At : Node → Node → Prop} {P : Place → Place → Prop} {S : String → String → Prop}
  {V : Option Complaint → Option Complaint → Prop}

theorem Agrees.mono {At' : Node → Node → Prop} {read : Reader α} (hread : Agrees At P S V read)
    (h : ∀ {node node'}, At' node node' → At node node') : Agrees At' P S V read where
  agrees hat hshifted := hread.agrees (h hat) hshifted

variable [hV : Verdict P S V]

/-! ## Readings -/

theorem complaint?_map (reading : Reading α) (f : α → β) :
    complaint? (do return f (← reading)) = complaint? reading := by
  cases reading <;> rfl

theorem complaint?_settled (place : Place) (reading : Reading α) :
    complaint? (settled place reading) =
      (complaint? reading).map (Complaint.settledAt place) := by
  cases reading <;> rfl

include hV

/-- One reading after another. -/
theorem Verdict.bind {first : Reading α} {first' : Reading β} {γ δ : Type} {next : α → Reading γ}
    {next' : β → Reading δ} (hfirst : V (complaint? first) (complaint? first'))
    (hnext : ∀ a b, first = .ok a → first' = .ok b →
      V (complaint? (next a)) (complaint? (next' b))) :
    V (complaint? (first >>= next)) (complaint? (first' >>= next')) := by
  cases first with
  | ok a =>
    cases first' with
    | ok b => exact hnext a b rfl rfl
    | error c' => exact hV.excused hfirst _
  | error c =>
    cases first' with
    | ok b => exact hV.waived hfirst _
    | error c' => exact hfirst

theorem Verdict.faulty {fault fault' : Fault} (h : fault.Shifted P fault') :
    V (complaint? (faulty fault : Reading α)) (complaint? (faulty fault' : Reading β)) := by
  obtain ⟨reason, place⟩ := fault
  obtain ⟨reason', place'⟩ := fault'
  obtain ⟨hreason, hplace⟩ := h
  dsimp only at hreason
  subst hreason
  exact hV.same _ (.some hplace)

theorem Verdict.mismatch (expected : Expected) {node node' : Node} (h : node.Shifted P S node') :
    V (complaint? (mismatch expected node : Reading α))
      (complaint? (mismatch expected node' : Reading β)) := by
  cases h with
  | broken hfault => exact hV.faulty hfault
  | scalar hvalue hstop => exact hV.wrongType expected hvalue hstop
  | list hstart _ | object hstart _ => exact hV.same _ (.some hstart)

/-! ## Readers of values -/

instance : Agrees At P S V text where
  agrees _ h := by
    cases h with
    | scalar hvalue hstop =>
      cases hvalue with
      | text _ => exact hV.ok
      | null => exact hV.wrongType .text .null hstop
      | boolean => exact hV.wrongType .text .boolean hstop
      | number => exact hV.wrongType .text .number hstop
    | broken hfault => exact hV.mismatch .text (.broken hfault)
    | list hstart hitems => exact hV.mismatch .text (.list hstart hitems)
    | object hstart hmembers => exact hV.mismatch .text (.object hstart hmembers)

instance : Agrees At P S V boolean where
  agrees _ h := by
    cases h with
    | scalar hvalue hstop =>
      cases hvalue with
      | boolean => exact hV.ok
      | null => exact hV.wrongType .boolean .null hstop
      | number => exact hV.wrongType .boolean .number hstop
      | text hs => exact hV.wrongType .boolean (.text hs) hstop
    | broken hfault => exact hV.mismatch .boolean (.broken hfault)
    | list hstart hitems => exact hV.mismatch .boolean (.list hstart hitems)
    | object hstart hmembers => exact hV.mismatch .boolean (.object hstart hmembers)

instance : Agrees At P S V integer where
  agrees _ h := by
    cases h with
    | scalar hvalue hstop =>
      cases hvalue with
      | @number n =>
        cases n with
        | whole n =>
          by_cases hn : -(twoTo 63 : Int) ≤ n ∧ n < (twoTo 63 : Int)
          · simp only [integer, if_pos hn]
            exact hV.ok
          · simp only [integer, if_neg hn]
            exact hV.same _ (.some hstop)
        | real x => exact hV.wrongType .integer .number hstop
      | null => exact hV.wrongType .integer .null hstop
      | boolean => exact hV.wrongType .integer .boolean hstop
      | text hs => exact hV.wrongType .integer (.text hs) hstop
    | broken hfault => exact hV.mismatch .integer (.broken hfault)
    | list hstart hitems => exact hV.mismatch .integer (.list hstart hitems)
    | object hstart hmembers => exact hV.mismatch .integer (.object hstart hmembers)

instance : Agrees At P S V anything where
  agrees {node node'} hat h := by
    have hvalue := h.value
    unfold anything
    revert hvalue
    cases node.value <;> cases node'.value <;> intro hvalue
    · exact hV.faulty hvalue
    · exact hvalue.elim
    · exact hvalue.elim
    · exact hV.ok

instance : Agrees At P S V deprecation where
  agrees {node node'} hat h := by
    have hread := @Agrees.agrees _ At P S V anything _ _ _ hat h
    have hother : V (some ⟨.noVariant "Deprecated", none⟩) (some ⟨.noVariant "Deprecated", none⟩) :=
      hV.same _ .none
    -- A truth value and a text are known forms, on both sides or on none.
    cases h with
    | broken hfault => exact hread
    | scalar hvalue hstop =>
      cases hvalue with
      | boolean | text => exact hV.ok
      | null | number => exact hother
    | list hstart hitems =>
      refine hV.bind hread fun value value' hvalue hvalue' => ?_
      obtain ⟨values, -, rfl⟩ := exists_of_map_eq_ok (value_of_anything hvalue)
      obtain ⟨values', -, rfl⟩ := exists_of_map_eq_ok (value_of_anything hvalue')
      exact hother
    | object hstart hmembers =>
      refine hV.bind hread fun value value' hvalue hvalue' => ?_
      obtain ⟨values, -, rfl⟩ := exists_of_map_eq_ok (value_of_anything hvalue)
      obtain ⟨values', -, rfl⟩ := exists_of_map_eq_ok (value_of_anything hvalue')
      exact hother

omit hV in
theorem complaint?_optional (read : Reader α) (node : Node) :
    complaint? (optional read node) = if node.isNull then none else complaint? (read node) := by
  unfold optional
  split
  · rfl
  · rename_i hnull
    rw [complaint?_map, Node.isNull_eq_false fun stop heq => hnull stop heq]
    rfl

omit hV in
theorem complaint?_orDefault (default : α) (read : Reader α) (node : Node) :
    complaint? (orDefault default read node) =
      if node.isNull then none else complaint? (read node) := by
  unfold orDefault
  split
  · rfl
  · rename_i hnull
    rw [Node.isNull_eq_false fun stop heq => hnull stop heq]
    rfl

omit hV in
theorem isNull_eq {node node' : Node} (h : node.Shifted P S node') :
    node'.isNull = node.isNull := by
  cases h with
  | scalar hvalue _ => cases hvalue <;> rfl
  | broken | list | object => rfl

section Parts

variable {read : Reader α}

theorem Agrees.optional (hread : Agrees At P S V read) : Agrees At P S V (optional read) where
  agrees hat h := by
    rw [complaint?_optional, complaint?_optional, isNull_eq h]
    split
    · exact hV.ok
    · exact hread.agrees hat h

theorem Agrees.orDefault (hread : Agrees At P S V read) (default : α) :
    Agrees At P S V (orDefault default read) where
  agrees hat h := by
    rw [complaint?_orDefault, complaint?_orDefault, isNull_eq h]
    split
    · exact hV.ok
    · exact hread.agrees hat h

theorem items_agree (hread : Agrees At P S V read) {nodes nodes' : List Node}
    (hat : ∀ item ∈ nodes, ∀ item' ∈ nodes', At item item')
    (h : List.Forall₂ (Node.Shifted P S) nodes nodes') :
    V (complaint? (items read nodes)) (complaint? (items read nodes')) := by
  induction h with
  | nil => exact hV.ok
  | cons hitem _ ih =>
    refine hV.bind (hread.agrees ?_ hitem) fun _ _ _ _ => ?_
    · exact hat _ List.mem_cons_self _ List.mem_cons_self
    · refine hV.bind (ih fun item hitem item' hitem' => ?_) fun _ _ _ _ => hV.ok
      exact hat item (List.mem_cons_of_mem _ hitem) item' (List.mem_cons_of_mem _ hitem')

theorem Agrees.listOf (hread : Agrees At P S V read) :
    Agrees (ItemsAt At) P S V (listOf read) where
  agrees hat h := by
    cases h with
    | list hstart hitems => exact items_agree hread hat hitems
    | broken hfault => exact hV.mismatch .list (.broken hfault)
    | scalar hvalue hstop => exact hV.mismatch .list (.scalar hvalue hstop)
    | object hstart hmembers => exact hV.mismatch .list (.object hstart hmembers)

theorem entries_agree (hread : Agrees At P S V read) {members members' : List Member}
    (hat : ∀ pair ∈ members.filterMap Member.pair?, ∀ pair' ∈ members'.filterMap Member.pair?,
      At pair.2 pair'.2)
    (h : List.Forall₂ (Member.Shifted P S) members members') (map map' : Written α) :
    V (complaint? (entries read map members)) (complaint? (entries read map' members')) := by
  induction h generalizing map map' with
  | nil => exact hV.ok
  | cons hmember _ ih =>
    cases hmember with
    | broken hfault => exact hV.faulty hfault
    | entry _ _ hvalue hatValue =>
      simp only [List.filterMap_cons, Member.pair?] at hat
      refine hV.bind ?_ fun _ _ _ _ => ih (fun pair hpair pair' hpair' => ?_) _ _
      · rw [complaint?_settled, complaint?_settled]
        refine hV.settled hatValue (hread.agrees ?_ hvalue)
        exact hat _ List.mem_cons_self _ List.mem_cons_self
      · exact hat pair (List.mem_cons_of_mem _ hpair) pair' (List.mem_cons_of_mem _ hpair')

theorem Agrees.mapOf (hread : Agrees At P S V read) :
    Agrees (ValuesAt At) P S V (mapOf read) where
  agrees hat h := by
    cases h with
    | object hstart hmembers => exact entries_agree hread hat hmembers {} {}
    | broken hfault => exact hV.mismatch .map (.broken hfault)
    | scalar hvalue hstop => exact hV.mismatch .map (.scalar hvalue hstop)
    | list hstart hitems => exact hV.mismatch .map (.list hstart hitems)

instance [hread : Agrees At P S V read] : Agrees At P S V (Declaration.optional read) :=
  hread.optional

instance [hread : Agrees At P S V read] (default : α) :
    Agrees At P S V (Declaration.orDefault default read) :=
  hread.orDefault default

instance [hread : Agrees (fun _ _ => True) P S V read] :
    Agrees At P S V (Declaration.listOf read) :=
  hread.listOf.mono fun _ _ _ _ _ => trivial

end Parts

end Readings

end Stencil.Declaration
