import Mathlib.Data.List.Forall2
import Stencil.Proofs.Json.Growth

/-!
# Trees that are alike

Two trees are alike if they are the same but for places and faults, with texts that are related in
some way. Their values have the same nesting, the same numbers and literals and as many members and
items. Tokens that are alike grow into trees that are alike.

## Main definitions

* `Lexeme.Alike S`, `Node.Alike S`, `TextTree.Alike S`: alike, with `S` between the texts
* `Grows S N B`: relations between trees that are kept while these grow

## Main results

* `TextTree.Alike.sound_iff`: of trees that are alike both are without a fault or none
* `TextTree.grow_related`: what open brackets have in common, the trees that grow have too
* `TextTree.grow_alike`: trees grow alike
-/

namespace Stencil.Json

variable {S : String → String → Prop}

/-! ## What is alike -/

/-- The same scalar, or two texts that are related. -/
inductive Scalar.Alike (S : String → String → Prop) : Scalar → Scalar → Prop
  | null : Alike S .null .null
  | boolean {b} : Alike S (.boolean b) (.boolean b)
  | number {n} : Alike S (.number n) (.number n)
  | text {s s'} : S s s' → Alike S (.text s) (.text s')

theorem Scalar.Alike.refl (hS : ∀ s, S s s) (value : Scalar) : value.Alike S value := by
  cases value with
  | null => exact .null
  | boolean b => exact .boolean
  | number n => exact .number
  | text s => exact .text (hS s)

theorem Scalar.Alike.eq {value value' : Scalar} (h : value.Alike Eq value') : value = value' := by
  cases h with
  | text hs => rw [hs]
  | null | boolean | number => rfl

mutual

/-- The same tree but for places, faults and related texts. -/
inductive Node.Alike (S : String → String → Prop) : Node → Node → Prop
  | broken {fault fault'} : Node.Alike S (.broken fault) (.broken fault')
  | scalar {value value' stop stop'} : value.Alike S value' →
    Node.Alike S (.scalar value stop) (.scalar value' stop')
  | list {start start' items items'} : List.Forall₂ (Node.Alike S) items items' →
    Node.Alike S (.list start items) (.list start' items')
  | object {start start' members members'} : List.Forall₂ (Member.Alike S) members members' →
    Node.Alike S (.object start members) (.object start' members')

/-- The same member but for places, faults and related texts. -/
inductive Member.Alike (S : String → String → Prop) : Member → Member → Prop
  | broken {fault fault'} : Member.Alike S (.broken fault) (.broken fault')
  | entry {key key' atKey atKey' value value' atValue atValue'} : S key key' →
    Node.Alike S value value' →
    Member.Alike S (.entry key atKey value atValue) (.entry key' atKey' value' atValue')

end

/-- Related roots, with a fault behind both or behind none. -/
structure TextTree.Related (N : Node → Node → Prop) (tree tree' : TextTree) : Prop where
  root : N tree.root tree'.root
  trailing : tree.trailing = none ↔ tree'.trailing = none

/-- The same tree, with a fault behind both or behind none. -/
abbrev TextTree.Alike (S : String → String → Prop) (tree tree' : TextTree) : Prop :=
  tree.Related (Node.Alike S) tree'

/-- The same kind of token but for faults and related texts. -/
inductive Lexeme.Alike (S : String → String → Prop) : Lexeme → Lexeme → Prop
  | beginObject : Alike S .beginObject .beginObject
  | endObject : Alike S .endObject .endObject
  | beginList : Alike S .beginList .beginList
  | endList : Alike S .endList .endList
  | colon : Alike S .colon .colon
  | comma : Alike S .comma .comma
  | scalar {value value'} : value.Alike S value' → Alike S (.scalar value) (.scalar value')
  | broken {fault fault' isText} : Alike S (.broken fault isText) (.broken fault' isText)
  | stray : Alike S .stray .stray
  | finish : Alike S .finish .finish

theorem Lexeme.Alike.refl (hS : ∀ s, S s s) (lexeme : Lexeme) : lexeme.Alike S lexeme := by
  cases lexeme with
  | beginObject => exact .beginObject
  | endObject => exact .endObject
  | beginList => exact .beginList
  | endList => exact .endList
  | colon => exact .colon
  | comma => exact .comma
  | scalar value => exact .scalar (.refl hS value)
  | broken fault isText => exact .broken
  | stray => exact .stray
  | finish => exact .finish

/-- The same tokens but for places, faults and related texts. -/
def TokensAlike (S : String → String → Prop) : List Token → List Token → Prop :=
  List.Forall₂ fun t t' => t.lexeme.Alike S t'.lexeme

/-! ## Relations that grow

What two trees have in common while they grow along tokens that are alike: a relation between nodes,
and one between the members so far of an object that starts at a place. -/

/-- A relation `N` between nodes, and one between the members so far of open objects with a known
start, the last one first, are kept by whatever a tree grows by. -/
structure Grows (S : String → String → Prop) (N : Node → Node → Prop)
    (B : Place → List Member → List Member → Prop) : Prop where
  broken : ∀ {fault fault'}, N (.broken fault) (.broken fault')
  scalar : ∀ {value value' stop stop'}, value.Alike S value' →
    N (.scalar value stop) (.scalar value' stop')
  list : ∀ {start start' items items'}, List.Forall₂ N items items' →
    N (.list start items) (.list start' items')
  object : ∀ {start start' before before'}, B start before before' →
    N (.object start before.reverse) (.object start' before'.reverse)
  nil : ∀ {start}, B start [] []
  missing : ∀ {start before before' fault fault'}, B start before before' →
    B start (.broken fault :: before) (.broken fault' :: before')
  entry : ∀ {start before before' key key' atKey atKey' value value' atValue atValue'},
    B start before before' → S key key' → N value value' →
    B start (.entry key atKey value atValue :: before)
      (.entry key' atKey' value' atValue' :: before')

/-- The same open bracket with members or items that are related. -/
inductive Frame.Related (S : String → String → Prop) (N : Node → Node → Prop)
    (B : Place → List Member → List Member → Prop) : Frame → Frame → Prop
  | list {start start' before before'} : List.Forall₂ N before before' →
    Related S N B (.list start before) (.list start' before')
  | object {start start' before before'} : B start before before' →
    Related S N B (.object start before) (.object start' before')
  | member {start start' before before' key key' atKey atKey'} : B start before before' →
    S key key' → Related S N B (.member start before key atKey) (.member start' before' key' atKey')

/-- The same step. -/
inductive Growth.Related (S : String → String → Prop) (N : Node → Node → Prop)
    (B : Place → List Member → List Member → Prop) : Growth → Growth → Prop
  | finished {tree tree'} : tree.Related N tree' →
    Related S N B (.finished tree) (.finished tree')
  | further {frames frames' expectation} : List.Forall₂ (Frame.Related S N B) frames frames' →
    Related S N B (.further frames expectation) (.further frames' expectation)

/-- Being alike is kept. -/
theorem grows_alike : Grows S (Node.Alike S) fun _ => List.Forall₂ (Member.Alike S) where
  broken := .broken
  scalar := .scalar
  list := .list
  object hbefore := .object (List.forall₂_reverse_iff.mpr hbefore)
  nil := .nil
  missing := .cons .broken
  entry hbefore hkey hvalue := .cons (.entry hkey hvalue) hbefore

/-! ## Values of trees that are alike -/

theorem forall_mem_iff_of_forall₂ {α β : Type} {R : α → β → Prop} {p : α → Prop} {q : β → Prop}
    {as : List α} {bs : List β} (h : List.Forall₂ R as bs)
    (hpq : ∀ a ∈ as, ∀ b, R a b → (p a ↔ q b)) : (∀ a ∈ as, p a) ↔ ∀ b ∈ bs, q b := by
  induction h with
  | nil => simp
  | cons hab hrest ih =>
    rw [List.forall_mem_cons, List.forall_mem_cons]
    refine and_congr (hpq _ List.mem_cons_self _ hab) (ih fun a ha b => ?_)
    exact hpq a (List.mem_cons_of_mem _ ha) b

mutual

/-- **Of trees that are alike** both have a value or none. -/
theorem Node.Alike.sound_iff {node node' : Node} (h : node.Alike S node') :
    node.Sound ↔ node'.Sound := by
  match node, h with
  | .broken _, .broken => exact iff_of_false (Node.not_sound_broken _) (Node.not_sound_broken _)
  | .scalar _ _, .scalar _ => exact iff_of_true (Node.sound_scalar _ _) (Node.sound_scalar _ _)
  | .list _ items, .list hitems =>
    rw [Node.sound_list_iff, Node.sound_list_iff]
    exact forall_mem_iff_of_forall₂ hitems fun item hmem _ hitem => hitem.sound_iff
  | .object _ members, .object hmembers =>
    rw [Node.sound_object_iff, Node.sound_object_iff]
    exact forall_mem_iff_of_forall₂ hmembers fun member hmem _ hmember => hmember.sound_iff
termination_by sizeOf node

theorem Member.Alike.sound_iff {member member' : Member} (h : member.Alike S member') :
    member.Sound ↔ member'.Sound := by
  match member, h with
  | .broken _, .broken => exact Iff.rfl
  | .entry _ _ value _, .entry _ hvalue => exact hvalue.sound_iff
termination_by sizeOf member

end

theorem TextTree.Alike.sound_iff {tree tree' : TextTree} (h : tree.Alike S tree') :
    tree.Sound ↔ tree'.Sound :=
  and_congr h.root.sound_iff h.trailing

/-! ## Growing alike -/

section Growing

variable {N : Node → Node → Prop} {B : Place → List Member → List Member → Prop}
  (hgrows : Grows S N B)

include hgrows

theorem abandon_related {frames frames' : List Frame}
    (hframes : List.Forall₂ (Frame.Related S N B) frames frames') {node node' : Node}
    (hnode : N node node') : N (Frame.abandon node frames) (Frame.abandon node' frames') := by
  induction hframes generalizing node node' with
  | nil => exact hnode
  | cons hframe _ ih =>
    cases hframe with
    | list hbefore =>
      exact ih (hgrows.list (List.forall₂_reverse_iff.mpr (.cons hnode hbefore)))
    | object hbefore => exact ih (hgrows.object hbefore)
    | member hbefore hkey => exact ih (hgrows.object (hgrows.entry hbefore hkey hnode))

theorem abandonMember_related {frames frames' : List Frame}
    (hframes : List.Forall₂ (Frame.Related S N B) frames frames') (fault fault' : Fault) :
    N (Frame.abandonMember fault frames) (Frame.abandonMember fault' frames') := by
  cases hframes with
  | nil => exact hgrows.broken
  | cons hframe hrest =>
    cases hframe with
    | list hbefore => exact abandon_related hgrows (.cons (.list hbefore) hrest) hgrows.broken
    | object hbefore =>
      exact abandon_related hgrows hrest (hgrows.object (hgrows.missing hbefore))
    | member hbefore hkey =>
      exact abandon_related hgrows (.cons (.member hbefore hkey) hrest) hgrows.broken

end Growing

namespace TextTree

variable {t t' : Token} {rest rest' : List Token} {frames frames' : List Frame}

theorem trailing?_eq_none_iff (h : TokensAlike S rest rest') :
    trailing? rest = none ↔ trailing? rest' = none := by
  cases h with
  | nil => exact Iff.rfl
  | @cons t t' _ _ ht _ =>
    obtain ⟨lexeme, start, stop⟩ := t
    obtain ⟨lexeme', start', stop'⟩ := t'
    dsimp only at ht
    cases ht <;> simp [trailing?]

section Growing

variable {N : Node → Node → Prop} {B : Place → List Member → List Member → Prop}
  (hgrows : Grows S N B) (hframes : List.Forall₂ (Frame.Related S N B) frames frames')

include hgrows hframes

theorem stop_related (fault fault' : Fault) :
    (stop (.broken fault) frames).Related S N B (stop (.broken fault') frames') :=
  .finished ⟨abandon_related hgrows hframes hgrows.broken, Iff.rfl⟩

theorem stopMember_related (fault fault' : Fault) :
    (stopMember fault frames).Related S N B (stopMember fault' frames') :=
  .finished ⟨abandonMember_related hgrows hframes fault fault', Iff.rfl⟩

theorem complete_related {node node' : Node} (hnode : N node node')
    (hrest : trailing? rest = none ↔ trailing? rest' = none) :
    (complete node rest frames).Related S N B (complete node' rest' frames') := by
  cases hframes with
  | nil => exact .finished ⟨hnode, hrest⟩
  | cons hframe houter =>
    cases hframe with
    | list hbefore => exact .further (.cons (.list (.cons hnode hbefore)) houter)
    | object hbefore => exact .further (.cons (.object hbefore) houter)
    | member hbefore hkey =>
      exact .further (.cons (.object (hgrows.entry hbefore hkey hnode)) houter)

theorem openWith_related {frame frame' : Frame} (hframe : frame.Related S N B frame')
    (expectation : Expectation) :
    (openWith frame expectation t frames).Related S N B
      (openWith frame' expectation t' frames') := by
  unfold openWith
  rw [hframes.length_eq]
  split
  · exact .further (.cons hframe hframes)
  · exact stop_related hgrows hframes _ _

theorem advanceValue_related (ht : t.lexeme.Alike S t'.lexeme)
    (hrest : trailing? rest = none ↔ trailing? rest' = none) :
    (advanceValue frames t rest).Related S N B (advanceValue frames' t' rest') := by
  obtain ⟨lexeme, start, stop⟩ := t
  obtain ⟨lexeme', start', stop'⟩ := t'
  dsimp only at ht
  cases ht with
  | scalar hvalue => exact complete_related hgrows hframes (hgrows.scalar hvalue) hrest
  | beginList => exact openWith_related hgrows hframes (.list .nil) _
  | beginObject => exact openWith_related hgrows hframes (.object hgrows.nil) _
  | endObject | endList | colon | comma | broken | stray | finish =>
    exact stop_related hgrows hframes _ _

theorem advanceKey_related (ht : t.lexeme.Alike S t'.lexeme) (start start' : Place)
    {before before' : List Member} (hbefore : B start before before') :
    (advanceKey frames start before t rest).Related S N B
      (advanceKey frames' start' before' t' rest') := by
  have hstop : ∀ fault fault', (stopMember fault (.object start before :: frames)).Related S N B
      (stopMember fault' (.object start' before' :: frames')) :=
    stopMember_related hgrows (.cons (.object hbefore) hframes)
  obtain ⟨lexeme, start, stop⟩ := t
  obtain ⟨lexeme', start', stop'⟩ := t'
  dsimp only at ht
  cases ht with
  | scalar hvalue =>
    cases hvalue with
    | text htext => exact .further (.cons (.member hbefore htext) hframes)
    | null | boolean | number => exact hstop _ _
  | @broken _ _ isText => cases isText <;> exact hstop _ _
  | beginObject | endObject | beginList | endList | colon | comma | stray | finish =>
    exact hstop _ _

theorem advance_related (ht : t.lexeme.Alike S t'.lexeme)
    (hrest : trailing? rest = none ↔ trailing? rest' = none) (expectation : Expectation) :
    (advance frames expectation t rest).Related S N B
      (advance frames' expectation t' rest') := by
  have hvalue := advanceValue_related hgrows hframes ht hrest
  have hstop := stop_related hgrows hframes
  have hstopMember := stopMember_related hgrows hframes
  obtain ⟨lexeme, start, stop⟩ := t
  obtain ⟨lexeme', start', stop'⟩ := t'
  dsimp only at ht
  -- The innermost bracket decides, and in it what may come next.
  cases hframes with
  | nil =>
    cases expectation with
    | value => cases ht <;> exact hvalue
    | firstItem | afterItem | firstKey | key | colon | afterMember => exact hvalue
  | cons hframe houter =>
    cases hframe with
    | list hbefore =>
      have hlist := fun place place' => @complete_related S rest rest' _ _ N B hgrows houter _ _
        (@Grows.list S N B hgrows place place' _ _ (List.forall₂_reverse_iff.mpr hbefore)) hrest
      cases expectation with
      | value =>
        cases hbefore with
        | nil => cases ht <;> exact hvalue
        | cons _ _ => cases ht <;> first | exact hvalue | exact hstop _ _
      | firstItem => cases ht <;> first | exact hvalue | exact hlist _ _ | exact hstop _ _
      | afterItem =>
        cases ht <;>
          first
          | exact hlist _ _
          | exact hstop _ _
          | exact .further (.cons (.list hbefore) houter)
      | firstKey | key | colon | afterMember => exact hvalue
    | object hbefore =>
      have hobject := fun place' => @complete_related S rest rest' _ _ N B hgrows houter _ _
        (@Grows.object S N B hgrows _ place' _ _ hbefore) hrest
      have hkey := fun place' => @advanceKey_related S ⟨lexeme, start, stop⟩
        ⟨lexeme', start', stop'⟩ rest rest' _ _ N B hgrows houter ht _ place' _ _ hbefore
      cases expectation with
      | value => cases ht <;> exact hvalue
      | firstItem | afterItem | colon => exact hvalue
      | firstKey | key =>
        cases ht <;>
          first | exact hobject _ | exact hstopMember _ _ | exact hkey _
      | afterMember =>
        cases ht <;>
          first
          | exact hobject _
          | exact hstopMember _ _
          | exact .further (.cons (.object hbefore) houter)
    | member hbefore htext =>
      cases expectation with
      | value => cases ht <;> exact hvalue
      | firstItem | afterItem | firstKey | key | afterMember => exact hvalue
      | colon =>
        cases ht <;>
          first | exact hstop _ _ | exact .further (.cons (.member hbefore htext) houter)

omit hframes in
/-- **Trees grow** along tokens that are alike as their open brackets are related. -/
theorem grow_related {tokens tokens' : List Token} (htokens : TokensAlike S tokens tokens')
    (hframes : List.Forall₂ (Frame.Related S N B) frames frames') (expectation : Expectation) :
    (grow frames expectation tokens).Related N (grow frames' expectation tokens') := by
  induction htokens generalizing frames frames' expectation with
  | nil => exact ⟨abandon_related hgrows hframes hgrows.broken, Iff.rfl⟩
  | cons ht hrest ih =>
    rw [grow_cons, grow_cons]
    have hstep := advance_related hgrows hframes ht (trailing?_eq_none_iff hrest) expectation
    revert hstep
    generalize advance frames expectation _ _ = growth
    generalize advance frames' expectation _ _ = growth'
    intro hstep
    cases hstep with
    | finished htree => exact htree
    | further hnext => exact ih hnext _

omit hframes in
/-- Steps that are the same lead to related trees. -/
theorem tree_related {growth growth' : Growth} (h : growth.Related S N B growth')
    (hrest : TokensAlike S rest rest') : (growth.tree rest).Related N (growth'.tree rest') := by
  cases h with
  | finished htree => exact htree
  | further hnext => exact grow_related hgrows hrest hnext _

end Growing

/-- **Trees grow alike** along tokens that are alike. -/
theorem grow_alike {tokens tokens' : List Token} (htokens : TokensAlike S tokens tokens') :
    (grow [] .value tokens).Alike S (grow [] .value tokens') :=
  grow_related grows_alike htokens .nil .value

end TextTree

end Stencil.Json
