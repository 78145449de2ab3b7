import Stencil.Proofs.Json.Objects
import Stencil.Proofs.Json.SideBySide

/-!
# Objects that gain a null

The tree of a text gains a null if the tokens of a member that is null stand behind the brace of an
object. The tree is the same elsewhere, but for the places: in front of the brace and behind the
member both texts have the same tokens, and what grows along them is related.

## Main definitions

* `Node.GainsNull place key`: a tree with one more member in an object that starts at a place

## Main results

* `Node.GainsNull.alike`: elsewhere nothing is gained
* `TextTree.grow_last_null`, `TextTree.grow_first_null`: a null behind a brace
* `TextTree.grow_brace_related`: trees are related if they are from a brace on
-/

namespace Stencil.Json

/-! ## Trees that gain a null -/

mutual

/-- The same tree but for places and, in an object that starts at the given one, a null in front of
its members. -/
inductive Node.GainsNull (place : Place) (key : String) : Node → Node → Prop
  | broken {fault fault'} : Node.GainsNull place key (.broken fault) (.broken fault')
  | scalar {value stop stop'} : Node.GainsNull place key (.scalar value stop) (.scalar value stop')
  | list {start start' items items'} : List.Forall₂ (Node.GainsNull place key) items items' →
    Node.GainsNull place key (.list start items) (.list start' items')
  | object {start start' members members'} :
    List.Forall₂ (Member.GainsNull place key) members members' →
    Node.GainsNull place key (.object start members) (.object start' members')
  | null {start' members members' atKey stop atValue} :
    List.Forall₂ (Member.GainsNull place key) members members' →
    Node.GainsNull place key (.object place members)
      (.object start' (.entry key atKey (.scalar .null stop) atValue :: members'))

/-- The same member but for places and a null in its value. -/
inductive Member.GainsNull (place : Place) (key : String) : Member → Member → Prop
  | broken {fault fault'} : Member.GainsNull place key (.broken fault) (.broken fault')
  | entry {name atKey atKey' value value' atValue atValue'} :
    Node.GainsNull place key value value' →
    Member.GainsNull place key (.entry name atKey value atValue)
      (.entry name atKey' value' atValue')

end

variable {place : Place} {key : String}

mutual

/-- **Elsewhere** nothing is gained. -/
theorem Node.GainsNull.alike {node node' : Node} (h : node.GainsNull place key node')
    (hplace : place ∉ node.starts) : node.Alike Eq node' := by
  match node, h with
  | .broken _, .broken => exact .broken
  | .scalar value _, .scalar => exact .scalar (.refl (fun _ => rfl) value)
  | .list _ items, .list hitems => exact .list (itemsGainNull_alike hitems hplace)
  | .object _ members, .object hmembers =>
    exact .object (membersGainNull_alike hmembers fun hmem => hplace (List.mem_cons_of_mem _ hmem))
  | .object _ _, .null _ => exact absurd List.mem_cons_self hplace
termination_by sizeOf node

theorem itemsGainNull_alike {items items' : List Node}
    (h : List.Forall₂ (Node.GainsNull place key) items items') (hplace : place ∉ itemStarts items) :
    List.Forall₂ (Node.Alike Eq) items items' := by
  match items, h with
  | [], .nil => exact .nil
  | item :: rest, .cons hitem hrest =>
    rw [itemStarts, List.mem_append, not_or] at hplace
    exact .cons (hitem.alike hplace.1) (itemsGainNull_alike hrest hplace.2)
termination_by sizeOf items

theorem membersGainNull_alike {members members' : List Member}
    (h : List.Forall₂ (Member.GainsNull place key) members members')
    (hplace : place ∉ memberStarts members) : List.Forall₂ (Member.Alike Eq) members members' := by
  match members, h with
  | [], .nil => exact .nil
  | .broken _ :: rest, .cons .broken hrest =>
    exact .cons .broken (membersGainNull_alike hrest hplace)
  | .entry _ _ value _ :: rest, .cons (.entry hvalue) hrest =>
    rw [memberStarts, List.mem_append, not_or] at hplace
    exact .cons (.entry rfl (hvalue.alike hplace.1)) (membersGainNull_alike hrest hplace.2)
termination_by sizeOf members

end

/-! ## Growing with one more member -/

/-- The members so far of an object that starts at a place, with a null in front of them if it is
the given one. -/
inductive BeforeGainsNull (place : Place) (key : String) (start : Place) :
    List Member → List Member → Prop
  | same {before before'} : List.Forall₂ (Member.GainsNull place key) before before' →
    BeforeGainsNull place key start before before'
  | null {before before' atKey stop atValue} : start = place →
    List.Forall₂ (Member.GainsNull place key) before before' →
    BeforeGainsNull place key start before
      (before' ++ [.entry key atKey (.scalar .null stop) atValue])

theorem BeforeGainsNull.cons {start : Place} {before before' : List Member}
    (h : BeforeGainsNull place key start before before') {member member' : Member}
    (hmember : member.GainsNull place key member') :
    BeforeGainsNull place key start (member :: before) (member' :: before') := by
  cases h with
  | same hbefore => exact .same (.cons hmember hbefore)
  | null hstart hbefore => exact .null hstart (.cons hmember hbefore)

theorem grows_gainsNull (place : Place) (key : String) :
    Grows Eq (Node.GainsNull place key) (BeforeGainsNull place key) where
  broken := .broken
  scalar hvalue := by
    rw [hvalue.eq]
    exact .scalar
  list := .list
  object hbefore := by
    cases hbefore with
    | same hbefore => exact .object (List.forall₂_reverse_iff.mpr hbefore)
    | null hstart hbefore =>
      subst hstart
      rw [List.reverse_append]
      exact .null (List.forall₂_reverse_iff.mpr hbefore)
  nil := .same .nil
  missing hbefore := hbefore.cons .broken
  entry hbefore hkey hvalue := by
    subst hkey
    exact hbefore.cons (.entry hvalue)

namespace TextTree

/-- A null member behind a brace. -/
theorem grow_null (start : Place) (outer : List Frame) {t₁ t₂ t₃ : Token}
    (h₁ : t₁.lexeme = .scalar (.text key)) (h₂ : t₂.lexeme = .colon)
    (h₃ : t₃.lexeme = .scalar .null) (rest : List Token) :
    grow (.object start [] :: outer) .firstKey (t₁ :: t₂ :: t₃ :: rest) =
      grow
        (.object start [.entry key t₂.start (.scalar .null t₃.stop) (Token.settle rest)] :: outer)
        .afterMember rest := by
  obtain ⟨_, start₁, stop₁⟩ := t₁
  obtain ⟨_, start₂, stop₂⟩ := t₂
  obtain ⟨_, start₃, stop₃⟩ := t₃
  dsimp only at h₁ h₂ h₃
  subst h₁ h₂ h₃
  rfl

/-- A brace opens an object or ends the tree, whatever is behind it. -/
theorem advance_brace (frames : List Frame) (expectation : Expectation) (place : Place) :
    (∃ tree, ∀ rest, advance frames expectation (.brace place) rest = .finished tree) ∨
      ∀ rest, advance frames expectation (.brace place) rest =
        .further (.object place [] :: frames) .firstKey := by
  have hopen : (∃ tree, ∀ rest, advanceValue frames (.brace place) rest = .finished tree) ∨
      ∀ rest, advanceValue frames (.brace place) rest =
        .further (.object place [] :: frames) .firstKey := by
    by_cases hdepth : frames.length + 1 < depthLimit
    · exact Or.inr fun rest => if_pos hdepth
    · exact Or.inl ⟨_, fun rest => if_neg hdepth⟩
  -- A value may come next, and the depth decides; or a brace is a fault here.
  cases expectation <;> rcases frames with _ | ⟨_ | _ | _, outer⟩ <;>
    first
    | exact hopen
    | exact Or.inl ⟨_, fun rest => rfl⟩

section Inserted

variable {outer outer' : List Frame} {start' : Place} {t₁ t₂ t₃ : Token}
  {tokens tokens' : List Token}
  (houter : List.Forall₂
    (Frame.Related Eq (Node.GainsNull place key) (BeforeGainsNull place key)) outer outer')
  (h₁ : t₁.lexeme = .scalar (.text key)) (h₂ : t₂.lexeme = .colon)
  (h₃ : t₃.lexeme = .scalar .null) (htokens : TokensAlike Eq tokens tokens')

include houter h₁ h₂ h₃ htokens

/-- A null in an object that ends behind it. -/
theorem grow_last_null (hends : ∃ t ∈ tokens.head?, t.lexeme = .endObject) :
    (grow (.object place [] :: outer) .firstKey tokens).Related (Node.GainsNull place key)
      (grow (.object start' [] :: outer') .firstKey (t₁ :: t₂ :: t₃ :: tokens')) := by
  rw [grow_null start' outer' h₁ h₂ h₃]
  cases htokens with
  | nil =>
    obtain ⟨t, ht, -⟩ := hends
    cases ht
  | @cons t t' rest rest' ht hrest =>
    obtain ⟨_, hhead, hend⟩ := hends
    obtain rfl := Option.some.inj hhead
    obtain ⟨lexeme, start, stop⟩ := t
    obtain ⟨lexeme', start', stop'⟩ := t'
    dsimp only at hend ht
    subst hend
    cases ht
    -- Both objects end here, the one empty and the other with the null.
    rw [grow_cons, grow_cons]
    refine tree_related (grows_gainsNull place key) ?_ hrest
    exact complete_related (grows_gainsNull place key) houter (.null .nil)
      (trailing?_eq_none_iff hrest)

/-- A null in front of other members. -/
theorem grow_first_null {t₄ : Token} (h₄ : t₄.lexeme = .comma)
    (hgoes : ∀ t ∈ tokens.head?, t.lexeme ≠ .endObject) :
    (grow (.object place [] :: outer) .firstKey tokens).Related (Node.GainsNull place key)
      (grow (.object start' [] :: outer') .firstKey (t₁ :: t₂ :: t₃ :: t₄ :: tokens')) := by
  rw [grow_null start' outer' h₁ h₂ h₃]
  obtain ⟨_, start₄, stop₄⟩ := t₄
  dsimp only at h₄
  subst h₄
  have hgrows := grows_gainsNull place key
  -- A key comes next on both sides.
  generalize hnull : Member.entry key _ _ _ = null
  have hbefore : BeforeGainsNull place key place [] [null] := by
    rw [← hnull]
    exact .null rfl .nil
  have hframes : List.Forall₂
      (Frame.Related Eq (Node.GainsNull place key) (BeforeGainsNull place key))
      (.object place [] :: outer) (.object start' [null] :: outer') :=
    .cons (.object hbefore) houter
  rw [grow_cons]
  change (grow _ _ tokens).Related _ (grow (.object start' [null] :: outer') .key tokens')
  cases htokens with
  | nil => exact grow_related hgrows .nil hframes .key
  | @cons t t' rest rest' ht hrest =>
    rw [grow_cons, grow_cons]
    refine tree_related hgrows ?_ hrest
    have hne := hgoes t rfl
    have hstop := stopMember_related hgrows hframes
    have hkey := @advanceKey_related Eq t t' rest rest' _ _ _ _ hgrows houter ht place start' _ _
      hbefore
    obtain ⟨lexeme, start, stop⟩ := t
    obtain ⟨lexeme', start', stop'⟩ := t'
    dsimp only at hne ht
    cases ht with
    | endObject => exact absurd rfl hne
    | finish => exact hstop _ _
    | beginObject | beginList | endList | colon | comma | scalar | broken | stray => exact hkey

end Inserted

/-- What is open in front of a brace is related, and so are the trees if they are from there on. -/
theorem grow_brace_related {S : String → String → Prop} (hS : ∀ s, S s s) {N : Node → Node → Prop}
    {B : Place → List Member → List Member → Prop} (hgrows : Grows S N B) {rest rest' : List Token}
    (hrest : ∀ outer outer', List.Forall₂ (Frame.Related S N B) outer outer' →
      (grow (.object place [] :: outer) .firstKey rest).Related N
        (grow (.object place [] :: outer') .firstKey rest'))
    (before : List Token) {frames frames' : List Frame}
    (hframes : List.Forall₂ (Frame.Related S N B) frames frames') (expectation : Expectation) :
    (grow frames expectation (before ++ .brace place :: rest)).Related N
      (grow frames' expectation (before ++ .brace place :: rest')) := by
  induction before generalizing frames frames' expectation with
  | nil =>
    rw [List.nil_append, List.nil_append, grow_cons, grow_cons]
    have hstep := advance_related hgrows hframes
      (t := .brace place) (.refl hS _) (Iff.refl (trailing? [] = none)) expectation
    -- Both braces end their trees, or both open an object.
    rcases advance_brace frames expectation place with ⟨tree, h⟩ | h <;>
      rcases advance_brace frames' expectation place with ⟨tree', h'⟩ | h' <;>
      rw [h, h'] at hstep ⊢ <;> cases hstep
    · assumption
    · exact hrest frames frames' hframes
  | cons t before ih =>
    rw [List.cons_append, List.cons_append, grow_cons, grow_cons]
    -- Both tokens are the same, and so is whether anything is behind them.
    have htrailing : trailing? (before ++ .brace place :: rest) = none ↔
        trailing? (before ++ .brace place :: rest') = none := by
      cases before <;> exact Iff.rfl
    have hstep := advance_related hgrows hframes (.refl hS t.lexeme) htrailing expectation
    revert hstep
    generalize advance frames expectation t _ = growth
    generalize advance frames' expectation t _ = growth'
    intro hstep
    cases hstep with
    | finished htree => exact htree
    | further hnext => exact ih hnext _

end TextTree

end Stencil.Json
