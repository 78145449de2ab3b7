import Stencil.Json.Value
import Stencil.Proofs.Steps

/-!
# Trees that grow token by token

A tree grows along the tokens of a text in steps: one token either ends the tree or leads to other
open brackets and another expectation. A tree has a value if it has no fault anywhere.

## Main definitions

* `Node.Sound`, `TextTree.Sound`: trees without a fault
* `IsJson text`: a text that the JSON reader accepts
* `TextTree.advance`: the step from one token to the next

## Main results

* `isJson_iff`: a text is accepted if its tree has no fault
* `TextTree.grow_cons`: a tree grows by steps
* `TextTree.clean_of_sound`: the tokens of a tree without a fault
-/

namespace Stencil.Json

/-! ## Trees without faults -/

/-- A tree that has a value. -/
def Node.Sound (node : Node) : Prop := ∃ value, node.value = .ok value

/-- A member that has a value. -/
def Member.Sound : Member → Prop
  | .broken _ => False
  | .entry _ _ value _ => value.Sound

theorem Node.not_sound_broken (fault : Fault) : ¬ (Node.broken fault).Sound := nofun

theorem Node.sound_scalar (value : Scalar) (stop : Place) : (Node.scalar value stop).Sound :=
  ⟨value.value, rfl⟩

theorem exists_itemValues_iff {items : List Node} :
    (∃ values, itemValues items = .ok values) ↔ ∀ item ∈ items, item.Sound := by
  induction items with
  | nil => exact ⟨fun _ => List.forall_mem_nil _, fun _ => ⟨[], rfl⟩⟩
  | cons item items ih =>
    rw [List.forall_mem_cons, ← ih]
    constructor
    · rintro ⟨values, h⟩
      obtain ⟨value, hvalue, h⟩ := exists_of_bind_eq_ok h
      obtain ⟨others, hothers, -⟩ := exists_of_map_eq_ok h
      exact ⟨⟨value, hvalue⟩, others, hothers⟩
    · rintro ⟨⟨value, hvalue⟩, others, hothers⟩
      exact ⟨value :: others, by rw [itemValues, hvalue, hothers]; rfl⟩

theorem exists_memberValues_iff {members : List Member} :
    (∃ values, memberValues members = .ok values) ↔ ∀ member ∈ members, member.Sound := by
  induction members with
  | nil => exact ⟨fun _ => List.forall_mem_nil _, fun _ => ⟨[], rfl⟩⟩
  | cons member members ih =>
    rw [List.forall_mem_cons, ← ih]
    cases member with
    | broken fault => exact iff_of_false (fun h => nomatch h.choose_spec) fun h => h.1
    | entry key atKey node atValue =>
      constructor
      · rintro ⟨values, h⟩
        obtain ⟨value, hvalue, h⟩ := exists_of_bind_eq_ok h
        obtain ⟨others, hothers, -⟩ := exists_of_map_eq_ok h
        exact ⟨⟨value, hvalue⟩, others, hothers⟩
      · rintro ⟨⟨value, hvalue⟩, others, hothers⟩
        exact ⟨(key, value) :: others, by rw [memberValues, hvalue, hothers]; rfl⟩

theorem Node.sound_list_iff {start : Place} {items : List Node} :
    (Node.list start items).Sound ↔ ∀ item ∈ items, item.Sound := by
  rw [← exists_itemValues_iff]
  constructor
  · rintro ⟨value, h⟩
    obtain ⟨values, hvalues, -⟩ := exists_of_map_eq_ok h
    exact ⟨values, hvalues⟩
  · rintro ⟨values, hvalues⟩
    exact ⟨.list values, by rw [Node.value, hvalues]; rfl⟩

theorem Node.sound_object_iff {start : Place} {members : List Member} :
    (Node.object start members).Sound ↔ ∀ member ∈ members, member.Sound := by
  rw [← exists_memberValues_iff]
  constructor
  · rintro ⟨value, h⟩
    obtain ⟨values, hvalues, -⟩ := exists_of_map_eq_ok h
    exact ⟨values, hvalues⟩
  · rintro ⟨values, hvalues⟩
    exact ⟨.object (Keyed.ofList values), by rw [Node.value, hvalues]; rfl⟩

/-- A tree without a fault in it or behind it. -/
def TextTree.Sound (tree : TextTree) : Prop := tree.root.Sound ∧ tree.trailing = none

/-- A text that is accepted as a JSON value. -/
def IsJson (text : String) : Prop := ∃ value, Value.read text = .ok value

theorem isOk_read_iff (text : String) : (Value.read text).isOk = true ↔ IsJson text := by
  unfold IsJson
  cases Value.read text with
  | ok value => exact iff_of_true rfl ⟨value, rfl⟩
  | error fault => exact iff_of_false nofun nofun

instance (text : String) : Decidable (IsJson text) := decidable_of_iff _ (isOk_read_iff text)

/-- **A text is accepted** if its tree has no fault. -/
theorem isJson_iff {text : String} : IsJson text ↔ (TextTree.read text).Sound := by
  unfold IsJson Value.read TextTree.Sound Node.Sound
  constructor
  · rintro ⟨value, h⟩
    obtain ⟨root, hroot, h⟩ := exists_of_bind_eq_ok h
    cases htrailing : (TextTree.read text).trailing with
    | none => exact ⟨⟨root, hroot⟩, rfl⟩
    | some fault =>
      rw [htrailing] at h
      cases h
  · rintro ⟨⟨root, hroot⟩, htrailing⟩
    exact ⟨root, by simp only [hroot, htrailing]; rfl⟩

/-! ## Steps of growth -/

/-- What a token leads to. -/
inductive Growth where
  /-- The whole tree. -/
  | finished (tree : TextTree)
  /-- Other open brackets and what may come next. -/
  | further (frames : List Frame) (expectation : Expectation)

/-- The tree that a step leads to along the tokens behind it. -/
def Growth.tree (rest : List Token) : Growth → TextTree
  | .finished tree => tree
  | .further frames expectation => TextTree.grow frames expectation rest

namespace TextTree

/-- A complete value. -/
def complete (node : Node) (rest : List Token) (frames : List Frame) : Growth :=
  match attach node rest frames with
  | none => .finished ⟨node, trailing? rest⟩
  | some (frames, expectation) => .further frames expectation

/-- A fault where a value should be. -/
def stop (node : Node) (frames : List Frame) : Growth := .finished ⟨Frame.abandon node frames, none⟩

/-- A fault where a member should be. -/
def stopMember (fault : Fault) (frames : List Frame) : Growth :=
  .finished ⟨Frame.abandonMember fault frames, none⟩

/-- One more bracket, unless there are too many. -/
def openWith (frame : Frame) (expectation : Expectation) (t : Token) (frames : List Frame) :
    Growth :=
  if frames.length + 1 < depthLimit then .further (frame :: frames) expectation
  else stop (.broken ⟨.tooDeep, t.glance⟩) frames

/-- A token where a value may start. -/
def advanceValue (frames : List Frame) (t : Token) (rest : List Token) : Growth :=
  match t.lexeme with
  | .scalar v => complete (.scalar v t.stop) rest frames
  | .beginList => openWith (.list t.start []) .firstItem t frames
  | .beginObject => openWith (.object t.start []) .firstKey t frames
  | .broken fault _ => stop (.broken fault) frames
  | .finish => stop (.broken ⟨.endInValue, t.glance⟩) frames
  | _ => stop (.broken ⟨.noValue, t.glance⟩) frames

/-- A token where a key may stand, in an object with the brackets `outer` around it. -/
def advanceKey (outer : List Frame) (start : Place) (before : List Member) (t : Token)
    (rest : List Token) : Growth :=
  match t.lexeme with
  | .scalar (.text key) => .further (.member start before key (Token.settle rest) :: outer) .colon
  | .broken fault true => stopMember fault (.object start before :: outer)
  | _ => stopMember ⟨.keyNotText, t.glance⟩ (.object start before :: outer)

/-- The step over one token, in front of the tokens `rest`. -/
def advance (frames : List Frame) (expectation : Expectation) (t : Token) (rest : List Token) :
    Growth :=
  let fail (reason : Reason) : Growth := stop (.broken ⟨reason, t.glance⟩) frames
  let failMember (reason : Reason) : Growth := stopMember ⟨reason, t.glance⟩ frames
  match expectation, frames with
  | .value, _ =>
    match t.lexeme, frames with
    | .endList, .list _ (_ :: _) :: _ => fail .trailingComma
    | _, _ => advanceValue frames t rest
  | .firstItem, .list start before :: outer =>
    match t.lexeme with
    | .endList => complete (.list start before.reverse) rest outer
    | .finish => fail .endInList
    | _ => advanceValue frames t rest
  | .afterItem, .list start before :: outer =>
    match t.lexeme with
    | .endList => complete (.list start before.reverse) rest outer
    | .comma => .further frames .value
    | .finish => fail .endInList
    | _ => fail .noListComma
  | .firstKey, .object start before :: outer =>
    match t.lexeme with
    | .endObject => complete (.object start before.reverse) rest outer
    | .finish => failMember .endInObject
    | _ => advanceKey outer start before t rest
  | .key, .object start before :: outer =>
    match t.lexeme with
    | .endObject => failMember .trailingComma
    | .finish => failMember .endInValue
    | _ => advanceKey outer start before t rest
  | .colon, .member _ _ _ _ :: _ =>
    match t.lexeme with
    | .colon => .further frames .value
    | .finish => fail .endInObject
    | _ => fail .noColon
  | .afterMember, .object start before :: outer =>
    match t.lexeme with
    | .endObject => complete (.object start before.reverse) rest outer
    | .comma => .further frames .key
    | .finish => failMember .endInObject
    | _ => failMember .noObjectComma
  | _, _ => advanceValue frames t rest

variable (rest : List Token)

theorem tree_complete (node : Node) (frames : List Frame) :
    (complete node rest frames).tree rest =
      match attach node rest frames with
      | none => ⟨node, trailing? rest⟩
      | some (frames, expectation) => grow frames expectation rest := by
  unfold complete
  cases attach node rest frames <;> rfl

theorem tree_openWith (frame : Frame) (expectation : Expectation) (t : Token)
    (frames : List Frame) :
    (openWith frame expectation t frames).tree rest =
      if frames.length + 1 < depthLimit then grow (frame :: frames) expectation rest
      else ⟨Frame.abandon (.broken ⟨.tooDeep, t.glance⟩) frames, none⟩ := by
  unfold openWith
  split <;> rfl

/-- **A tree grows by steps.** -/
theorem grow_cons (frames : List Frame) (expectation : Expectation) (t : Token) :
    grow frames expectation (t :: rest) = (advance frames expectation t rest).tree rest := by
  obtain ⟨lexeme, start, stop⟩ := t
  cases expectation <;> rcases frames with _ | ⟨⟨_, _ | _⟩ | _ | _, outer⟩ <;>
    rcases lexeme with _ | _ | _ | _ | _ | _ | ⟨_ | _ | _ | _⟩ | ⟨_, _ | _⟩ | _ | _ <;>
    first
    | rfl
    | exact (tree_complete rest _ _).symm
    | exact (tree_openWith rest _ _ _ _).symm

end TextTree

/-! ## Brackets that are open -/

namespace Frame

/-- A value may stand in the bracket. -/
def HoldsValue : Frame → Prop
  | .object _ _ => False
  | _ => True

/-- The tree around a fault has a fault. -/
theorem not_sound_abandon {node : Node} (h : ¬ node.Sound) {frames : List Frame}
    (hframes : ∀ frame ∈ frames, frame.HoldsValue) : ¬ (abandon node frames).Sound := by
  induction frames generalizing node with
  | nil => exact h
  | cons frame frames ih =>
    obtain ⟨hframe, houter⟩ := List.forall_mem_cons.mp hframes
    -- The fault is an item of the list, or the value of a member, and so on outwards.
    cases frame with
    | list start before =>
      refine ih (fun hlist => h ?_) houter
      exact Node.sound_list_iff.mp hlist node (List.mem_reverse.mpr List.mem_cons_self)
    | object start before => exact hframe.elim
    | member start before key atKey =>
      refine ih (fun hobject => h ?_) houter
      have hentry := Node.sound_object_iff.mp hobject (.entry key atKey node {})
      exact hentry (List.mem_reverse.mpr List.mem_cons_self)

theorem not_sound_abandonMember (fault : Fault) {start : Place} {before : List Member}
    {frames : List Frame} (hframes : ∀ frame ∈ frames, frame.HoldsValue) :
    ¬ (abandonMember fault (.object start before :: frames)).Sound := by
  refine not_sound_abandon (fun hobject => ?_) hframes
  exact Node.sound_object_iff.mp hobject (.broken fault) (List.mem_reverse.mpr List.mem_cons_self)

end Frame

/-- What may come next in the innermost bracket; the others wait for a value. -/
inductive Expectation.Fits : Expectation → List Frame → Prop
  | value {frames} : (∀ frame ∈ frames, frame.HoldsValue) → Fits .value frames
  | firstItem {start before outer} : (∀ frame ∈ outer, frame.HoldsValue) →
    Fits .firstItem (.list start before :: outer)
  | afterItem {start before outer} : (∀ frame ∈ outer, frame.HoldsValue) →
    Fits .afterItem (.list start before :: outer)
  | firstKey {start before outer} : (∀ frame ∈ outer, frame.HoldsValue) →
    Fits .firstKey (.object start before :: outer)
  | key {start before outer} : (∀ frame ∈ outer, frame.HoldsValue) →
    Fits .key (.object start before :: outer)
  | colon {start before key atKey outer} : (∀ frame ∈ outer, frame.HoldsValue) →
    Fits .colon (.member start before key atKey :: outer)
  | afterMember {start before outer} : (∀ frame ∈ outer, frame.HoldsValue) →
    Fits .afterMember (.object start before :: outer)

/-! ## Tokens of trees without faults -/

/-- A token that is no fault by itself, nor the end of the text. -/
def Lexeme.Passes : Lexeme → Prop
  | .broken _ _ | .stray | .finish => False
  | _ => True

/-- No token is a fault up to the end of the text. -/
def Token.Clean : List Token → Prop
  | [] => True
  | t :: rest => t.lexeme = .finish ∨ t.lexeme.Passes ∧ Clean rest

/-- **What a step can do**: it ends the tree with a fault, or it goes over a token and ends the tree
in front of the other tokens, or it goes on. -/
inductive Growth.Follows (t : Token) (rest : List Token) : Growth → Prop
  | fault {node} : ¬ node.Sound → Follows t rest (.finished ⟨node, none⟩)
  | last {node} : t.lexeme.Passes → Follows t rest (.finished ⟨node, TextTree.trailing? rest⟩)
  | further {frames expectation} : t.lexeme.Passes → expectation.Fits frames →
    Follows t rest (.further frames expectation)

namespace TextTree

open Growth (Follows)

variable {t : Token} {rest : List Token} {frames : List Frame}

theorem passes_of_eq {lexeme : Lexeme} (h : t.lexeme = lexeme) (hpasses : lexeme.Passes) :
    t.lexeme.Passes := by
  rw [h]
  exact hpasses

theorem follows_stop {fault : Fault} (hframes : ∀ frame ∈ frames, frame.HoldsValue) :
    Follows t rest (stop (.broken fault) frames) :=
  .fault (Frame.not_sound_abandon (Node.not_sound_broken fault) hframes)

theorem follows_stopMember {fault : Fault} {start : Place} {before : List Member}
    (hframes : ∀ frame ∈ frames, frame.HoldsValue) :
    Follows t rest (stopMember fault (.object start before :: frames)) :=
  .fault (Frame.not_sound_abandonMember fault hframes)

theorem follows_complete (ht : t.lexeme.Passes) (node : Node)
    (hframes : ∀ frame ∈ frames, frame.HoldsValue) :
    Follows t rest (complete node rest frames) := by
  rcases frames with _ | ⟨frame, outer⟩
  · exact .last ht
  · obtain ⟨hframe, houter⟩ := List.forall_mem_cons.mp hframes
    cases frame with
    | list start before => exact .further ht (.afterItem houter)
    | object start before => exact hframe.elim
    | member start before key atKey => exact .further ht (.afterMember houter)

theorem follows_openWith (ht : t.lexeme.Passes) {frame : Frame} {expectation : Expectation}
    (hframes : ∀ frame ∈ frames, frame.HoldsValue) (hfits : expectation.Fits (frame :: frames)) :
    Follows t rest (openWith frame expectation t frames) := by
  unfold openWith
  split
  · exact .further ht hfits
  · exact follows_stop hframes

theorem follows_advanceValue (hframes : ∀ frame ∈ frames, frame.HoldsValue) :
    Follows t rest (advanceValue frames t rest) := by
  unfold advanceValue
  split <;> rename_i hlexeme
  · exact follows_complete (passes_of_eq hlexeme trivial) _ hframes
  · exact follows_openWith (passes_of_eq hlexeme trivial) hframes (.firstItem hframes)
  · exact follows_openWith (passes_of_eq hlexeme trivial) hframes (.firstKey hframes)
  all_goals exact follows_stop hframes

theorem follows_advanceKey {start : Place} {before : List Member}
    (hframes : ∀ frame ∈ frames, frame.HoldsValue) :
    Follows t rest (advanceKey frames start before t rest) := by
  unfold advanceKey
  split <;> rename_i hlexeme
  · exact .further (passes_of_eq hlexeme trivial) (.colon hframes)
  all_goals exact follows_stopMember hframes

theorem follows_advance {expectation : Expectation} (h : expectation.Fits frames) :
    Follows t rest (advance frames expectation t rest) := by
  unfold advance
  cases h with
  | value hframes =>
    dsimp only
    split
    · exact follows_stop hframes
    · exact follows_advanceValue hframes
  | @firstItem start before outer houter =>
    have hframes : ∀ frame ∈ Frame.list start before :: outer, frame.HoldsValue :=
      List.forall_mem_cons.mpr ⟨trivial, houter⟩
    dsimp only
    split <;> rename_i hlexeme
    · exact follows_complete (passes_of_eq hlexeme trivial) _ houter
    · exact follows_stop hframes
    · exact follows_advanceValue hframes
  | @afterItem start before outer houter =>
    have hframes : ∀ frame ∈ Frame.list start before :: outer, frame.HoldsValue :=
      List.forall_mem_cons.mpr ⟨trivial, houter⟩
    dsimp only
    split <;> rename_i hlexeme
    · exact follows_complete (passes_of_eq hlexeme trivial) _ houter
    · exact .further (passes_of_eq hlexeme trivial) (.value hframes)
    all_goals exact follows_stop hframes
  | firstKey houter =>
    dsimp only
    split <;> rename_i hlexeme
    · exact follows_complete (passes_of_eq hlexeme trivial) _ houter
    · exact follows_stopMember houter
    · exact follows_advanceKey houter
  | key houter =>
    dsimp only
    split
    · exact follows_stopMember houter
    · exact follows_stopMember houter
    · exact follows_advanceKey houter
  | @colon start before key atKey outer houter =>
    have hframes : ∀ frame ∈ Frame.member start before key atKey :: outer, frame.HoldsValue :=
      List.forall_mem_cons.mpr ⟨trivial, houter⟩
    dsimp only
    split <;> rename_i hlexeme
    · exact .further (passes_of_eq hlexeme trivial) (.value hframes)
    all_goals exact follows_stop hframes
  | afterMember houter =>
    dsimp only
    split <;> rename_i hlexeme
    · exact follows_complete (passes_of_eq hlexeme trivial) _ houter
    · exact .further (passes_of_eq hlexeme trivial) (.key houter)
    all_goals exact follows_stopMember houter

theorem clean_of_trailing? (h : trailing? rest = none) : Token.Clean rest := by
  cases rest with
  | nil => trivial
  | cons t rest =>
    rw [trailing?] at h
    split at h
    · rename_i hfinish
      exact Or.inl hfinish
    · cases h

/-- **A tree without faults** has tokens without faults. -/
theorem clean_of_sound {expectation : Expectation} {tokens : List Token}
    (hfits : expectation.Fits frames) (h : (grow frames expectation tokens).Sound) :
    Token.Clean tokens := by
  induction tokens generalizing frames expectation with
  | nil => trivial
  | cons t rest ih =>
    rw [grow_cons] at h
    have hfollows := @follows_advance t rest frames expectation hfits
    generalize advance frames expectation t rest = growth at h hfollows
    cases hfollows with
    | fault hfault => exact absurd h.1 hfault
    | last ht =>
      exact Or.inr ⟨ht, clean_of_trailing? h.2⟩
    | further ht hnext => exact Or.inr ⟨ht, ih hnext h⟩

end TextTree

end Stencil.Json
