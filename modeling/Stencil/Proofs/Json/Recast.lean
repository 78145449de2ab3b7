import Stencil.Proofs.Json.Growth

/-!
# Trees at other places

Where the tokens of a text stand and which characters its texts have does not matter to the tree
that grows along them: with other places and other texts it is the same tree with these places and
texts.

## Main definitions

* `Token.recast φ g`, `Node.recast φ g`, `TextTree.recast φ g`: with `φ` applied to each place and `g`
  to each text
* `Token.Glances φ t`: where faults are found at a token goes along with its start

## Main results

* `TextTree.grow_recast`: tokens that are recast grow into the tree that is recast
-/

namespace Stencil.Json

variable (φ : Place → Place) (g : String → String)

/-- The same reason at another place. -/
def Fault.recast (fault : Fault) : Fault := ⟨fault.reason, φ fault.place⟩

/-- A scalar with another text. -/
def Scalar.recast : Scalar → Scalar
  | .text s => .text (g s)
  | value => value

/-- A lexeme with another text, or with its fault at another place. -/
def Lexeme.recast : Lexeme → Lexeme
  | .scalar value => .scalar (value.recast g)
  | .broken fault isText => .broken (fault.recast φ) isText
  | lexeme => lexeme

/-- A token with another text and other places. -/
def Token.recast (t : Token) : Token := ⟨t.lexeme.recast φ g, φ t.start, φ t.stop⟩

mutual

/-- A tree with other texts and other places. -/
def Node.recast : Node → Node
  | .broken fault => .broken (fault.recast φ)
  | .scalar value stop => .scalar (value.recast g) (φ stop)
  | .list start items => .list (φ start) (recastItems items)
  | .object start members => .object (φ start) (recastMembers members)

/-- A member with other texts and other places. -/
def Member.recast : Member → Member
  | .broken fault => .broken (fault.recast φ)
  | .entry key atKey value atValue => .entry (g key) (φ atKey) value.recast (φ atValue)

/-- The items with other texts and other places. -/
def recastItems : List Node → List Node
  | [] => []
  | item :: items => item.recast :: recastItems items

/-- The members with other texts and other places. -/
def recastMembers : List Member → List Member
  | [] => []
  | member :: members => member.recast :: recastMembers members

end

/-- An open bracket with other texts and other places. -/
def Frame.recast : Frame → Frame
  | .list start before => .list (φ start) (before.map (Node.recast φ g))
  | .object start before => .object (φ start) (before.map (Member.recast φ g))
  | .member start before key atKey =>
    .member (φ start) (before.map (Member.recast φ g)) (g key) (φ atKey)

/-- A tree with other texts and other places, also of the fault behind it. -/
def TextTree.recast (tree : TextTree) : TextTree :=
  ⟨tree.root.recast φ g, tree.trailing.map (Fault.recast φ)⟩

/-- The same step with other texts and other places. -/
def Growth.recast : Growth → Growth
  | .finished tree => .finished (tree.recast φ g)
  | .further frames expectation => .further (frames.map (Frame.recast φ g)) expectation

theorem recastItems_eq_map (items : List Node) : recastItems φ g items = items.map (Node.recast φ g) := by
  induction items with
  | nil => rfl
  | cons item items ih => rw [recastItems, ih, List.map_cons]

theorem recastMembers_eq_map (members : List Member) :
    recastMembers φ g members = members.map (Member.recast φ g) := by
  induction members with
  | nil => rfl
  | cons member members ih => rw [recastMembers, ih, List.map_cons]

/-- Where a fault is found at the token goes along with the start of the token. -/
def Token.Glances (t : Token) : Prop := φ t.start.next = (φ t.start).next

variable {φ g}

theorem Token.glance_recast {t : Token} (h : t.Glances φ) : (t.recast φ g).glance = φ t.glance := by
  obtain ⟨lexeme, start, stop⟩ := t
  cases lexeme <;> first | exact h.symm | rfl

/-! ## Growing -/

section Growing

variable (hφ : φ {} = {})

include hφ

theorem abandon_recast (node : Node) (frames : List Frame) :
    Frame.abandon (node.recast φ g) (frames.map (Frame.recast φ g)) =
      (Frame.abandon node frames).recast φ g := by
  induction frames generalizing node with
  | nil => rfl
  | cons frame frames ih =>
    cases frame <;>
      simp [Frame.recast, Frame.abandon, ← ih, Node.recast, Member.recast, recastItems_eq_map,
        recastMembers_eq_map, hφ]

theorem abandonMember_recast (fault : Fault) (frames : List Frame) :
    Frame.abandonMember (fault.recast φ) (frames.map (Frame.recast φ g)) =
      (Frame.abandonMember fault frames).recast φ g := by
  have hnode := @abandon_recast φ g hφ (.broken fault)
  cases frames with
  | nil => rfl
  | cons frame frames =>
    cases frame with
    | list start before => exact hnode (.list start before :: frames)
    | member start before key atKey => exact hnode (.member start before key atKey :: frames)
    | object start before =>
      simp [Frame.recast, Frame.abandonMember, ← abandon_recast hφ, Node.recast, Member.recast,
        recastMembers_eq_map]

theorem settle_recast (tokens : List Token) :
    Token.settle (tokens.map (Token.recast φ g)) = φ (Token.settle tokens) := by
  cases tokens with
  | nil => exact hφ.symm
  | cons t rest =>
    obtain ⟨lexeme, start, stop⟩ := t
    cases lexeme <;> rfl

end Growing

namespace TextTree

variable {t : Token} {rest : List Token} {frames : List Frame}

theorem trailing?_recast (h : ∀ t ∈ rest, t.Glances φ) :
    trailing? (rest.map (Token.recast φ g)) = (trailing? rest).map (Fault.recast φ) := by
  cases rest with
  | nil => rfl
  | cons t rest =>
    have hglance := @Token.glance_recast φ g t (h t List.mem_cons_self)
    obtain ⟨lexeme, start, stop⟩ := t
    cases lexeme <;> simp_all [trailing?, Token.recast, Lexeme.recast, Fault.recast]

section Steps

variable (hφ : φ {} = {})

include hφ

theorem stop_recast (fault : Fault) :
    stop (.broken (fault.recast φ)) (frames.map (Frame.recast φ g)) =
      (stop (.broken fault) frames).recast φ g := by
  have habandon := @abandon_recast φ g hφ (.broken fault) frames
  rw [Node.recast] at habandon
  simp [stop, Growth.recast, TextTree.recast, habandon]

theorem stopMember_recast (fault : Fault) :
    stopMember (fault.recast φ) (frames.map (Frame.recast φ g)) =
      (stopMember fault frames).recast φ g := by
  simp [stopMember, Growth.recast, TextTree.recast, abandonMember_recast hφ]

theorem complete_recast (hrest : ∀ t ∈ rest, t.Glances φ) (node : Node) :
    complete (node.recast φ g) (rest.map (Token.recast φ g)) (frames.map (Frame.recast φ g)) =
      (complete node rest frames).recast φ g := by
  cases frames with
  | nil => simp [complete, attach, Growth.recast, TextTree.recast, trailing?_recast hrest]
  | cons frame frames =>
    cases frame <;>
      simp [complete, attach, Growth.recast, Frame.recast, Member.recast, settle_recast hφ]

theorem openWith_recast (ht : t.Glances φ) (frame : Frame) (expectation : Expectation) :
    openWith (frame.recast φ g) expectation (t.recast φ g) (frames.map (Frame.recast φ g)) =
      (openWith frame expectation t frames).recast φ g := by
  have hstop := @stop_recast φ g frames hφ ⟨.tooDeep, t.glance⟩
  unfold openWith
  rw [List.length_map, Token.glance_recast ht]
  split
  · rfl
  · exact hstop

theorem advanceValue_recast (ht : t.Glances φ) (hrest : ∀ t ∈ rest, t.Glances φ) :
    advanceValue (frames.map (Frame.recast φ g)) (t.recast φ g) (rest.map (Token.recast φ g)) =
      (advanceValue frames t rest).recast φ g := by
  have hcomplete := @complete_recast φ g rest frames hφ hrest
  have hopen := @openWith_recast φ g t frames hφ ht
  have hstop := @stop_recast φ g frames hφ
  have hglance := @Token.glance_recast φ g t ht
  have hfail : ∀ reason, stop (.broken ⟨reason, (t.recast φ g).glance⟩)
      (frames.map (Frame.recast φ g)) =
        (stop (.broken ⟨reason, t.glance⟩) frames).recast φ g := by
    intro reason
    rw [hglance]
    exact hstop ⟨reason, t.glance⟩
  obtain ⟨lexeme, start, stop⟩ := t
  cases lexeme with
  | scalar value => exact hcomplete (.scalar value stop)
  | beginList => exact hopen (.list start []) .firstItem
  | beginObject => exact hopen (.object start []) .firstKey
  | broken fault isText => exact hstop fault
  | endObject | endList | colon | comma | stray => exact hfail .noValue
  | finish => exact hfail .endInValue

theorem advanceKey_recast (ht : t.Glances φ) (start : Place) (before : List Member) :
    advanceKey (frames.map (Frame.recast φ g)) (φ start) (before.map (Member.recast φ g))
        (t.recast φ g) (rest.map (Token.recast φ g)) =
      (advanceKey frames start before t rest).recast φ g := by
  have hstop := @stopMember_recast φ g (.object start before :: frames) hφ
  have hfail : stopMember ⟨.keyNotText, (t.recast φ g).glance⟩
      (.object (φ start) (before.map (Member.recast φ g)) :: frames.map (Frame.recast φ g)) =
        (stopMember ⟨.keyNotText, t.glance⟩ (.object start before :: frames)).recast φ g := by
    rw [Token.glance_recast ht]
    exact hstop ⟨.keyNotText, t.glance⟩
  obtain ⟨lexeme, place, stop⟩ := t
  cases lexeme with
  | scalar value =>
    cases value with
    | text key =>
      simp [advanceKey, Token.recast, Lexeme.recast, Scalar.recast, Growth.recast, Frame.recast,
        settle_recast hφ]
    | null | boolean | number => exact hfail
  | broken fault isText =>
    cases isText with
    | false => exact hfail
    | true => exact hstop fault
  | beginObject | endObject | beginList | endList | colon | comma | stray | finish => exact hfail

/-- **A step** over a token that is recast. -/
theorem advance_recast (ht : t.Glances φ) (hrest : ∀ t ∈ rest, t.Glances φ)
    (expectation : Expectation) :
    advance (frames.map (Frame.recast φ g)) expectation (t.recast φ g)
        (rest.map (Token.recast φ g)) =
      (advance frames expectation t rest).recast φ g := by
  have hvalue := @advanceValue_recast φ g t rest frames hφ ht hrest
  have hfail : ∀ reason, stop (.broken ⟨reason, (t.recast φ g).glance⟩)
      (frames.map (Frame.recast φ g)) =
        (stop (.broken ⟨reason, t.glance⟩) frames).recast φ g := by
    intro reason
    rw [Token.glance_recast ht]
    exact stop_recast hφ ⟨reason, t.glance⟩
  have hfailMember : ∀ reason, stopMember ⟨reason, (t.recast φ g).glance⟩
      (frames.map (Frame.recast φ g)) =
        (stopMember ⟨reason, t.glance⟩ frames).recast φ g := by
    intro reason
    rw [Token.glance_recast ht]
    exact stopMember_recast hφ ⟨reason, t.glance⟩
  -- The innermost bracket decides, and in it what may come next.
  cases frames with
  | nil =>
    obtain ⟨lexeme, place, stop⟩ := t
    cases expectation with
    | value => cases lexeme <;> exact hvalue
    | firstItem | afterItem | firstKey | key | colon | afterMember => exact hvalue
  | cons frame outer =>
    cases frame with
    | list start before =>
      have hlist := @complete_recast φ g rest outer hφ hrest (.list start before.reverse)
      rw [Node.recast, recastItems_eq_map, List.map_reverse] at hlist
      obtain ⟨lexeme, place, stop⟩ := t
      cases expectation with
      | value =>
        cases before <;> cases lexeme <;> first | exact hvalue | exact hfail _
      | firstItem => cases lexeme <;> first | exact hvalue | exact hlist | exact hfail _
      | afterItem => cases lexeme <;> first | rfl | exact hlist | exact hfail _
      | firstKey | key | colon | afterMember => exact hvalue
    | object start before =>
      have hobject := @complete_recast φ g rest outer hφ hrest (.object start before.reverse)
      have hkey := @advanceKey_recast φ g t rest outer hφ ht start before
      rw [Node.recast, recastMembers_eq_map, List.map_reverse] at hobject
      obtain ⟨lexeme, place, stop⟩ := t
      cases expectation with
      | value => cases lexeme <;> exact hvalue
      | firstItem | afterItem | colon => exact hvalue
      | firstKey | key =>
        cases lexeme <;> first | exact hobject | exact hfailMember _ | exact hkey
      | afterMember =>
        cases lexeme <;> first | rfl | exact hobject | exact hfailMember _
    | member start before key atKey =>
      obtain ⟨lexeme, place, stop⟩ := t
      cases expectation with
      | value => cases lexeme <;> exact hvalue
      | firstItem | afterItem | firstKey | key | afterMember => exact hvalue
      | colon => cases lexeme <;> first | rfl | exact hfail _

/-- **A tree grows** along tokens that are recast as it grows along the tokens, up to these places
and texts. -/
theorem grow_recast {tokens : List Token} (htokens : ∀ t ∈ tokens, t.Glances φ)
    (frames : List Frame) (expectation : Expectation) :
    grow (frames.map (Frame.recast φ g)) expectation (tokens.map (Token.recast φ g)) =
      (grow frames expectation tokens).recast φ g := by
  induction tokens generalizing frames expectation with
  | nil =>
    have habandon := @abandon_recast φ g hφ (.broken ⟨.endInValue, {}⟩) frames
    rw [Node.recast, Fault.recast, hφ] at habandon
    simp [grow, TextTree.recast, habandon]
  | cons t rest ih =>
    obtain ⟨ht, hrest⟩ := List.forall_mem_cons.mp htokens
    rw [List.map_cons, grow_cons, grow_cons, advance_recast hφ ht hrest]
    cases advance frames expectation t rest with
    | finished tree => rfl
    | further frames expectation => exact ih hrest frames expectation

end Steps

end TextTree

end Stencil.Json
