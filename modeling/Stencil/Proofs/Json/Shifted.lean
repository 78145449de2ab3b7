import Stencil.Proofs.Json.Alike
import Stencil.Proofs.Json.Recast

/-!
# Trees with their places in relation

Two trees that are alike may also have the same faults, with places that belong together throughout.
So it is for a tree and the tree that is recast, whatever becomes of the texts, and for two trees
that are alike and without faults.

## Main definitions

* `Node.Shifted P S`: alike with `S` between the texts, with the same reasons for faults and with `P`
  between places

## Main results

* `Node.Alike.shifted`: trees that are alike, one of which is the other recast but for texts
* `Node.Alike.shifted_of_sound`: trees without faults
* `Node.Shifted.value`: both trees have a value, or the same fault is met first
-/

namespace Stencil.Json

variable {P : Place → Place → Prop} {S : String → String → Prop}

/-- The same reason at places that are related. -/
structure Fault.Shifted (P : Place → Place → Prop) (fault fault' : Fault) : Prop where
  reason_eq : fault'.reason = fault.reason
  place : P fault.place fault'.place

mutual

/-- The same tree but for related texts, with places that are related. -/
inductive Node.Shifted (P : Place → Place → Prop) (S : String → String → Prop) :
    Node → Node → Prop
  | broken {fault fault'} : fault.Shifted P fault' →
    Node.Shifted P S (.broken fault) (.broken fault')
  | scalar {value value' stop stop'} : value.Alike S value' → P stop stop' →
    Node.Shifted P S (.scalar value stop) (.scalar value' stop')
  | list {start start' items items'} : P start start' →
    List.Forall₂ (Node.Shifted P S) items items' →
    Node.Shifted P S (.list start items) (.list start' items')
  | object {start start' members members'} : P start start' →
    List.Forall₂ (Member.Shifted P S) members members' →
    Node.Shifted P S (.object start members) (.object start' members')

/-- The same member but for related texts, with places that are related. -/
inductive Member.Shifted (P : Place → Place → Prop) (S : String → String → Prop) :
    Member → Member → Prop
  | broken {fault fault'} : fault.Shifted P fault' →
    Member.Shifted P S (.broken fault) (.broken fault')
  | entry {key key' atKey atKey' value value' atValue atValue'} : S key key' → P atKey atKey' →
    Node.Shifted P S value value' → P atValue atValue' →
    Member.Shifted P S (.entry key atKey value atValue) (.entry key' atKey' value' atValue')

end

/-- The same tree, with the same fault behind it or none. -/
structure TextTree.Shifted (P : Place → Place → Prop) (S : String → String → Prop)
    (tree tree' : TextTree) : Prop where
  root : tree.root.Shifted P S tree'.root
  trailing : Option.Rel (Fault.Shifted P) tree.trailing tree'.trailing

/-- No text is left. -/
def blank (_ : String) : String := ""

/-! ## A tree that is recast -/

section Recast

variable {φ : Place → Place}

theorem Fault.shifted_of_recast {fault fault' : Fault}
    (h : fault'.recast id = fault.recast φ) :
    fault.Shifted (fun place place' => place' = φ place) fault' :=
  ⟨(Fault.mk.inj h).1, (Fault.mk.inj h).2⟩

mutual

/-- **A tree that is another one recast**, apart from its texts. -/
theorem Node.Alike.shifted {node node' : Node} (h : node.Alike S node')
    (hrecast : node'.recast id blank = node.recast φ blank) :
    node.Shifted (fun place place' => place' = φ place) S node' := by
  match node, h with
  | .broken _, .broken => exact .broken (Fault.shifted_of_recast (Node.broken.inj hrecast))
  | .scalar _ _, .scalar hscalar => exact .scalar hscalar (Node.scalar.inj hrecast).2
  | .list _ items, .list hitems =>
    obtain ⟨hstart, hrest⟩ := Node.list.inj hrecast
    exact .list hstart (shifted_of_items hitems hrest)
  | .object _ members, .object hmembers =>
    obtain ⟨hstart, hrest⟩ := Node.object.inj hrecast
    exact .object hstart (shifted_of_members hmembers hrest)
termination_by sizeOf node

theorem shifted_of_items {items items' : List Node} (h : List.Forall₂ (Node.Alike S) items items')
    (hrecast : recastItems id blank items' = recastItems φ blank items) :
    List.Forall₂ (Node.Shifted (fun place place' => place' = φ place) S) items items' := by
  match items, h with
  | [], .nil => exact .nil
  | item :: rest, .cons hitem hrest =>
    obtain ⟨hfirst, hothers⟩ := List.cons.inj hrecast
    exact .cons (hitem.shifted hfirst) (shifted_of_items hrest hothers)
termination_by sizeOf items

theorem shifted_of_members {members members' : List Member}
    (h : List.Forall₂ (Member.Alike S) members members')
    (hrecast : recastMembers id blank members' = recastMembers φ blank members) :
    List.Forall₂ (Member.Shifted (fun place place' => place' = φ place) S) members members' := by
  match members, h with
  | [], .nil => exact .nil
  | .broken _ :: rest, .cons .broken hrest =>
    obtain ⟨hfirst, hothers⟩ := List.cons.inj hrecast
    exact .cons (.broken (Fault.shifted_of_recast (Member.broken.inj hfirst)))
      (shifted_of_members hrest hothers)
  | .entry key _ node _ :: rest, .cons (.entry hkey hnode) hrest =>
    obtain ⟨hfirst, hothers⟩ := List.cons.inj hrecast
    obtain ⟨-, hatKey, hvalue, hatValue⟩ := Member.entry.inj hfirst
    exact .cons (.entry hkey hatKey (hnode.shifted hvalue) hatValue)
      (shifted_of_members hrest hothers)
termination_by sizeOf members

end

/-- **A whole tree** that is another one recast, apart from its texts. -/
theorem TextTree.Alike.shifted {tree tree' : TextTree} (h : tree.Alike S tree')
    (hrecast : tree'.recast id blank = tree.recast φ blank) :
    tree.Shifted (fun place place' => place' = φ place) S tree' := by
  obtain ⟨hroot, htrailing⟩ := TextTree.mk.inj hrecast
  refine ⟨h.root.shifted hroot, ?_⟩
  revert htrailing
  cases tree.trailing <;> cases tree'.trailing <;> intro htrailing
  · exact .none
  · cases htrailing
  · cases htrailing
  · exact .some (Fault.shifted_of_recast (Option.some.inj htrailing))

end Recast

/-! ## Trees without faults -/

mutual

/-- **Trees without faults** have no places that matter. -/
theorem Node.Alike.shifted_of_sound {node node' : Node} (h : node.Alike S node')
    (hsound : node.Sound) : node.Shifted (fun _ _ => True) S node' := by
  match node, h with
  | .broken fault, .broken => exact absurd hsound (Node.not_sound_broken fault)
  | .scalar _ _, .scalar hscalar => exact .scalar hscalar trivial
  | .list _ items, .list hitems =>
    exact .list trivial (shifted_of_sound_items hitems (Node.sound_list_iff.mp hsound))
  | .object _ members, .object hmembers =>
    exact .object trivial (shifted_of_sound_members hmembers (Node.sound_object_iff.mp hsound))
termination_by sizeOf node

theorem shifted_of_sound_items {items items' : List Node}
    (h : List.Forall₂ (Node.Alike S) items items') (hsound : ∀ item ∈ items, item.Sound) :
    List.Forall₂ (Node.Shifted (fun _ _ => True) S) items items' := by
  match items, h with
  | [], .nil => exact .nil
  | item :: rest, .cons hitem hrest =>
    obtain ⟨hfirst, hothers⟩ := List.forall_mem_cons.mp hsound
    exact .cons (hitem.shifted_of_sound hfirst) (shifted_of_sound_items hrest hothers)
termination_by sizeOf items

theorem shifted_of_sound_members {members members' : List Member}
    (h : List.Forall₂ (Member.Alike S) members members')
    (hsound : ∀ member ∈ members, member.Sound) :
    List.Forall₂ (Member.Shifted (fun _ _ => True) S) members members' := by
  match members, h with
  | [], .nil => exact .nil
  | .broken _ :: rest, .cons .broken hrest =>
    exact (hsound _ List.mem_cons_self).elim
  | .entry key _ node _ :: rest, .cons (.entry hkey hnode) hrest =>
    obtain ⟨hfirst, hothers⟩ := List.forall_mem_cons.mp hsound
    exact .cons (.entry hkey trivial (hnode.shifted_of_sound hfirst) trivial)
      (shifted_of_sound_members hrest hothers)
termination_by sizeOf members

end

/-! ## Values -/

/-- Both sides have a value, or the same fault at places that are related. -/
def ValuesShifted {α β : Type} (P : Place → Place → Prop) :
    Except Fault α → Except Fault β → Prop
  | .ok _, .ok _ => True
  | .error fault, .error fault' => fault.Shifted P fault'
  | _, _ => False

theorem ValuesShifted.bind {α β γ δ : Type} {first : Except Fault α} {first' : Except Fault β}
    {next : α → Except Fault γ} {next' : β → Except Fault δ}
    (hfirst : ValuesShifted P first first') (hnext : ∀ a b, ValuesShifted P (next a) (next' b)) :
    ValuesShifted P (first >>= next) (first' >>= next') := by
  cases first with
  | ok a =>
    cases first' with
    | ok b => exact hnext a b
    | error fault' => exact hfirst.elim
  | error fault =>
    cases first' with
    | ok b => exact hfirst.elim
    | error fault' => exact hfirst

mutual

/-- **The values of trees in relation**, or the faults that are met first. -/
theorem Node.Shifted.value {node node' : Node} (h : node.Shifted P S node') :
    ValuesShifted P node.value node'.value := by
  match node, h with
  | .broken _, .broken hfault => exact hfault
  | .scalar _ _, .scalar _ _ => trivial
  | .list _ items, .list _ hitems => exact (shifted_itemValues hitems).bind fun _ _ => trivial
  | .object _ members, .object _ hmembers =>
    exact (shifted_memberValues hmembers).bind fun _ _ => trivial
termination_by sizeOf node

theorem shifted_itemValues {items items' : List Node}
    (h : List.Forall₂ (Node.Shifted P S) items items') :
    ValuesShifted P (itemValues items) (itemValues items') := by
  match items, h with
  | [], .nil => trivial
  | item :: rest, .cons hitem hrest =>
    have hvalues := shifted_itemValues hrest
    exact hitem.value.bind fun _ _ => hvalues.bind fun _ _ => trivial
termination_by sizeOf items

theorem shifted_memberValues {members members' : List Member}
    (h : List.Forall₂ (Member.Shifted P S) members members') :
    ValuesShifted P (memberValues members) (memberValues members') := by
  match members, h with
  | [], .nil => trivial
  | .broken _ :: rest, .cons (.broken hfault) hrest => exact hfault
  | .entry key _ node _ :: rest, .cons (.entry _ _ hnode _) hrest =>
    have hvalues := shifted_memberValues hrest
    exact hnode.value.bind fun _ _ => hvalues.bind fun _ _ => trivial
termination_by sizeOf members

end

end Stencil.Json
