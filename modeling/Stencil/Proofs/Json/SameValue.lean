import Stencil.Proofs.Json.Alike

/-!
# Trees with the same value

Two values are compared by a walk through both. Trees with the same value differ in places, in the
spelling of scalars and in the members of objects, of which the last with a key counts.

## Main definitions

* `Value.isSame`: whether two values are the same, which makes their equality decidable
* `Node.SameValue left right`: two trees have one value

## Main results

* `Value.isSame_iff`: values are equal if the walk finds no difference
* `Node.SameValue.forall₂_items`: lists with one value have items with the same values
* `Node.Alike.value_eq_ok`: trees that are the same but for places have one value
-/

namespace Stencil.Json

/-! ## Values -/

namespace Value

mutual

/-- Whether two values are the same. -/
def isSame : Value → Value → Bool
  | null, null => true
  | boolean b, boolean c => b == c
  | number n, number k => n == k
  | text s, text t => s == t
  | list items, list others => sameItems items others
  | object members, object others => sameMembers members others
  | _, _ => false

/-- Whether the items are the same. -/
def sameItems : List Value → List Value → Bool
  | [], [] => true
  | item :: items, other :: others => isSame item other && sameItems items others
  | _, _ => false

/-- Whether the members are the same. -/
def sameMembers : List (String × Value) → List (String × Value) → Bool
  | [], [] => true
  | (key, value) :: members, (other, held) :: others =>
    key == other && isSame value held && sameMembers members others
  | _, _ => false

end

mutual

/-- **Values** are equal if a walk through both finds no difference. -/
theorem isSame_iff (value other : Value) : value.isSame other = true ↔ value = other := by
  match value with
  | null | boolean _ | number _ | text _ => cases other <;> simp [isSame]
  | list items => cases other <;> simp [isSame, sameItems_iff items]
  | object members => cases other <;> simp [isSame, sameMembers_iff members]

theorem sameItems_iff (items others : List Value) :
    sameItems items others = true ↔ items = others := by
  match items with
  | [] => cases others <;> simp [sameItems]
  | item :: items =>
    cases others with
    | nil => simp [sameItems]
    | cons other others => simp [sameItems, isSame_iff item, sameItems_iff items]

theorem sameMembers_iff (members others : List (String × Value)) :
    sameMembers members others = true ↔ members = others := by
  match members with
  | [] => cases others <;> simp [sameMembers]
  | (key, value) :: members =>
    cases others with
    | nil => simp [sameMembers]
    | cons other others =>
      simp [sameMembers, isSame_iff value, sameMembers_iff members, Prod.ext_iff]

end

instance : DecidableEq Value := fun value other => decidable_of_iff _ (isSame_iff value other)

end Value

/-! ## Trees -/

namespace Node

/-- Two trees have one value. -/
def SameValue (left right : Node) : Prop :=
  ∃ value, left.value = .ok value ∧ right.value = .ok value

variable {left right : Node}

theorem sameValue_iff_of_ok {value other : Value} (hleft : left.value = .ok value)
    (hright : right.value = .ok other) : left.SameValue right ↔ value = other := by
  simp [SameValue, hleft, hright, eq_comm]

instance : DecidableRel SameValue := fun left right =>
  match hleft : left.value, hright : right.value with
  | .ok _, .ok _ => decidable_of_iff' _ (sameValue_iff_of_ok hleft hright)
  | .error _, _ => isFalse (by simp [SameValue, hleft])
  | .ok _, .error _ => isFalse (by simp [SameValue, hright])

theorem forall₂_of_itemValues {items others : List Node} {values : List Value}
    (hitems : itemValues items = .ok values) (hothers : itemValues others = .ok values) :
    List.Forall₂ SameValue items others := by
  -- Induction on the items; the values are used up in step with them, and so are the others.
  induction items generalizing others values with
  | nil =>
    obtain rfl := Except.ok.inj hitems
    cases others with
    | nil => exact .nil
    | cons other others =>
      obtain ⟨value, -, hrest⟩ := exists_of_bind_eq_ok hothers
      obtain ⟨values, -, hvalues⟩ := exists_of_map_eq_ok hrest
      cases hvalues
  | cons item items ih =>
    obtain ⟨value, hvalue, hrest⟩ := exists_of_bind_eq_ok hitems
    obtain ⟨values, hvalues, rfl⟩ := exists_of_map_eq_ok hrest
    cases others with
    | nil => cases hothers
    | cons other others =>
      obtain ⟨held, hheld, hrest⟩ := exists_of_bind_eq_ok hothers
      obtain ⟨helds, hhelds, heq⟩ := exists_of_map_eq_ok hrest
      obtain ⟨rfl, rfl⟩ := List.cons.inj heq
      exact .cons ⟨held, hvalue, hheld⟩ (ih hvalues hhelds)

/-- Lists with one value have items with the same values. -/
theorem SameValue.forall₂_items {start start' : Place} {items others : List Node}
    (h : (list start items).SameValue (list start' others)) :
    List.Forall₂ SameValue items others := by
  obtain ⟨value, hleft, hright⟩ := h
  obtain ⟨values, hvalues, rfl⟩ := exists_of_map_eq_ok hleft
  obtain ⟨others, hothers, heq⟩ := exists_of_map_eq_ok hright
  obtain rfl := Value.list.inj heq
  exact forall₂_of_itemValues hvalues hothers

end Node

/-! ## Trees that are the same but for places -/

mutual

/-- **Trees that are the same** but for places have the same value. -/
theorem Node.Alike.value_eq_ok {node node' : Node} (h : node.Alike Eq node') {value : Value}
    (hvalue : node.value = .ok value) : node'.value = .ok value := by
  match node, h with
  | .broken _, .broken => cases hvalue
  | .scalar _ _, .scalar hscalar =>
    rw [Node.value, hscalar.eq] at hvalue
    rw [Node.value, hvalue]
  | .list _ items, .list hitems =>
    obtain ⟨values, hvalues, rfl⟩ := exists_of_map_eq_ok hvalue
    rw [Node.value, itemValues_eq_ok hitems hvalues]
    rfl
  | .object _ members, .object hmembers =>
    obtain ⟨values, hvalues, rfl⟩ := exists_of_map_eq_ok hvalue
    rw [Node.value, memberValues_eq_ok hmembers hvalues]
    rfl
termination_by sizeOf node

theorem itemValues_eq_ok {items items' : List Node} (h : List.Forall₂ (Node.Alike Eq) items items')
    {values : List Value} (hvalues : itemValues items = .ok values) :
    itemValues items' = .ok values := by
  match items, h with
  | [], .nil => exact hvalues
  | item :: rest, .cons hitem hrest =>
    obtain ⟨value, hvalue, hvalues⟩ := exists_of_bind_eq_ok hvalues
    obtain ⟨others, hothers, rfl⟩ := exists_of_map_eq_ok hvalues
    rw [itemValues, hitem.value_eq_ok hvalue, itemValues_eq_ok hrest hothers]
    rfl
termination_by sizeOf items

theorem memberValues_eq_ok {members members' : List Member}
    (h : List.Forall₂ (Member.Alike Eq) members members') {values : List (String × Value)}
    (hvalues : memberValues members = .ok values) : memberValues members' = .ok values := by
  match members, h with
  | [], .nil => exact hvalues
  | .broken _ :: _, .cons .broken _ => cases hvalues
  | .entry key _ node _ :: rest, .cons (.entry hkey hnode) hrest =>
    obtain ⟨value, hvalue, hvalues⟩ := exists_of_bind_eq_ok hvalues
    obtain ⟨others, hothers, rfl⟩ := exists_of_map_eq_ok hvalues
    rw [memberValues, hnode.value_eq_ok hvalue, memberValues_eq_ok hrest hothers, ← hkey]
    rfl
termination_by sizeOf members

end

end Stencil.Json
