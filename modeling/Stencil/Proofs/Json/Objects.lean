import Stencil.Proofs.Json.Place
import Stencil.Proofs.Json.Scan

/-!
# Where objects start

An object of a tree starts where a brace stands in the text that is a token by itself. As each brace
stands at a place of its own, an object of a tree is known by the place where it starts.

## Main definitions

* `Node.starts`: where the objects of a tree start, in the order of the text
* `Token.objectStart`: where a token starts an object

## Main results

* `TextTree.grow_starts`: objects start where tokens say so
* `TextTree.nodup_starts`: no two objects of a text start at one place
* `Token.exists_split`: the text around a brace is scanned in two parts
-/

namespace Stencil.Json

/-! ## Starts in trees -/

mutual

/-- Where the objects of a tree start. -/
def Node.starts : Node → List Place
  | .broken _ | .scalar _ _ => []
  | .list _ items => itemStarts items
  | .object start members => start :: memberStarts members

/-- Where the objects in list items start. -/
def itemStarts : List Node → List Place
  | [] => []
  | item :: items => item.starts ++ itemStarts items

/-- Where the objects in the values of members start. -/
def memberStarts : List Member → List Place
  | [] => []
  | .broken _ :: members => memberStarts members
  | .entry _ _ value _ :: members => value.starts ++ memberStarts members

end

/-- Where the objects in the value of a member start. -/
def Member.starts : Member → List Place
  | .broken _ => []
  | .entry _ _ value _ => value.starts

theorem itemStarts_eq (items : List Node) : itemStarts items = items.flatMap Node.starts := by
  induction items with
  | nil => rfl
  | cons item items ih => rw [itemStarts, ih, List.flatMap_cons]

theorem memberStarts_eq (members : List Member) :
    memberStarts members = members.flatMap Member.starts := by
  induction members with
  | nil => rfl
  | cons member members ih => cases member <;> rw [memberStarts, ih, List.flatMap_cons] <;> rfl

theorem Node.starts_list (start : Place) (items : List Node) :
    (Node.list start items).starts = items.flatMap Node.starts := by
  rw [Node.starts, itemStarts_eq]

theorem Node.starts_object (start : Place) (members : List Member) :
    (Node.object start members).starts = start :: members.flatMap Member.starts := by
  rw [Node.starts, memberStarts_eq]

/-! ## Starts along the tokens -/

/-- Where the objects of an open bracket start so far. -/
def Frame.starts : Frame → List Place
  | .list _ before => before.reverse.flatMap Node.starts
  | .object start before | .member start before _ _ =>
    start :: before.reverse.flatMap Member.starts

/-- Where the objects of open brackets start, from the outermost bracket inwards. -/
def openStarts (frames : List Frame) : List Place := frames.reverse.flatMap Frame.starts

theorem openStarts_cons (frame : Frame) (outer : List Frame) :
    openStarts (frame :: outer) = openStarts outer ++ frame.starts := by
  rw [openStarts, List.reverse_cons, List.flatMap_append, List.flatMap_singleton]
  rfl

/-- Where a token starts an object. -/
def Token.objectStart (t : Token) : List Place :=
  match t.lexeme with
  | .beginObject => [t.start]
  | _ => []

/-- Where the objects start that are known after a step. -/
def Growth.starts : Growth → List Place
  | .finished tree => tree.root.starts
  | .further frames _ => openStarts frames

theorem Frame.starts_abandon (node : Node) (frames : List Frame) :
    (abandon node frames).starts.Sublist (openStarts frames ++ node.starts) := by
  induction frames generalizing node with
  | nil => exact List.Sublist.refl _
  | cons frame outer ih =>
    rw [openStarts_cons, List.append_assoc]
    -- The node is the last one in its bracket, or it is left out.
    cases frame with
    | list start before =>
      refine (ih _).trans (List.Sublist.append_left ?_ _)
      simp [Node.starts_list, Frame.starts]
    | object start before =>
      refine (ih _).trans (List.Sublist.append_left ?_ _)
      simp [Node.starts_object, Frame.starts]
    | member start before key atKey =>
      refine (ih _).trans (List.Sublist.append_left ?_ _)
      simp [Node.starts_object, Frame.starts, Member.starts]

theorem Frame.starts_abandonMember (fault : Fault) (frames : List Frame) :
    (abandonMember fault frames).starts.Sublist (openStarts frames) := by
  unfold abandonMember
  split
  · rename_i start before outer
    refine (starts_abandon _ outer).trans ?_
    rw [openStarts_cons]
    refine List.Sublist.append_left ?_ _
    simp [Node.starts_object, Frame.starts, Member.starts]
  · refine (starts_abandon _ frames).trans ?_
    simp [Node.starts]

namespace TextTree

variable {frames : List Frame} {t : Token} {rest : List Token}

theorem starts_stop (fault : Fault) (frames : List Frame) :
    (stop (.broken fault) frames).starts.Sublist (openStarts frames) := by
  have h := Frame.starts_abandon (.broken fault) frames
  rwa [Node.starts, List.append_nil] at h

theorem starts_stopMember (fault : Fault) (frames : List Frame) :
    (stopMember fault frames).starts.Sublist (openStarts frames) :=
  Frame.starts_abandonMember fault frames

theorem starts_complete (node : Node) (rest : List Token) (frames : List Frame) :
    (complete node rest frames).starts.Sublist (openStarts frames ++ node.starts) := by
  rcases frames with _ | ⟨frame, outer⟩
  · exact List.Sublist.refl _
  · cases frame with
    | list start before | object start before | member start before key atKey =>
      change (openStarts _).Sublist _
      simp [openStarts_cons, Frame.starts, Member.starts]

theorem starts_complete_list (start : Place) (before : List Node) (rest : List Token)
    (outer : List Frame) : (complete (.list start before.reverse) rest outer).starts.Sublist
      (openStarts (.list start before :: outer)) := by
  have h := starts_complete (.list start before.reverse) rest outer
  rwa [Node.starts_list, ← Frame.starts.eq_1 start, ← openStarts_cons] at h

theorem starts_complete_object (start : Place) (before : List Member) (rest : List Token)
    (outer : List Frame) : (complete (.object start before.reverse) rest outer).starts.Sublist
      (openStarts (.object start before :: outer)) := by
  have h := starts_complete (.object start before.reverse) rest outer
  rwa [Node.starts_object, ← Frame.starts.eq_2, ← openStarts_cons] at h

theorem starts_openWith (frame : Frame) (expectation : Expectation) (t : Token)
    (frames : List Frame) :
    (openWith frame expectation t frames).starts.Sublist (openStarts frames ++ frame.starts) := by
  unfold openWith
  split
  · change (openStarts _).Sublist _
    rw [openStarts_cons]
  · exact (starts_stop _ frames).trans (List.sublist_append_left _ _)

theorem starts_advanceValue (frames : List Frame) (t : Token) (rest : List Token) :
    (advanceValue frames t rest).starts.Sublist (openStarts frames ++ t.objectStart) := by
  unfold advanceValue
  split
  · refine (starts_complete _ rest frames).trans ?_
    simp [Node.starts]
  · refine (starts_openWith _ _ t frames).trans ?_
    simp [Frame.starts]
  · rename_i hlexeme
    have hstart : t.objectStart = [t.start] := by rw [Token.objectStart, hlexeme]
    rw [hstart]
    exact starts_openWith _ _ t frames
  all_goals exact (starts_stop _ frames).trans (List.sublist_append_left _ _)

theorem starts_advanceKey (outer : List Frame) (start : Place) (before : List Member) (t : Token)
    (rest : List Token) :
    (advanceKey outer start before t rest).starts.Sublist
      (openStarts (.object start before :: outer)) := by
  unfold advanceKey
  split
  · change (openStarts _).Sublist _
    rw [openStarts_cons, openStarts_cons]
    exact List.Sublist.refl _
  all_goals exact starts_stopMember _ _

/-- **A step** finds no start but those of its token. -/
theorem starts_advance (frames : List Frame) (expectation : Expectation) (t : Token)
    (rest : List Token) :
    (advance frames expectation t rest).starts.Sublist (openStarts frames ++ t.objectStart) := by
  have hvalue := starts_advanceValue frames t rest
  have hsame : (openStarts frames).Sublist (openStarts frames ++ t.objectStart) :=
    List.sublist_append_left _ _
  -- A bracket is opened, completed or left open; only the first adds a start.
  have hstop := fun fault => (starts_stop fault frames).trans hsame
  have hstopMember := fun fault => (starts_stopMember fault frames).trans hsame
  unfold advance
  dsimp only
  split
  · split
    · exact hstop _
    · exact hvalue
  · rename_i start before outer
    split
    · exact (starts_complete_list start before rest outer).trans hsame
    · exact hstop _
    · exact hvalue
  · rename_i start before outer
    split
    · exact (starts_complete_list start before rest outer).trans hsame
    · exact hsame
    · exact hstop _
    · exact hstop _
  · rename_i start before outer
    split
    · exact (starts_complete_object start before rest outer).trans hsame
    · exact hstopMember _
    · exact (starts_advanceKey outer start before t rest).trans hsame
  · rename_i start before outer
    split
    · exact hstopMember _
    · exact hstopMember _
    · exact (starts_advanceKey outer start before t rest).trans hsame
  · split
    · exact hsame
    · exact hstop _
    · exact hstop _
  · rename_i start before outer
    split
    · exact (starts_complete_object start before rest outer).trans hsame
    · exact hsame
    · exact hstopMember _
    · exact hstopMember _
  · exact hvalue

/-- **Objects start** where tokens say so. -/
theorem grow_starts (frames : List Frame) (expectation : Expectation) (tokens : List Token) :
    (grow frames expectation tokens).root.starts.Sublist
      (openStarts frames ++ tokens.flatMap Token.objectStart) := by
  induction tokens generalizing frames expectation with
  | nil =>
    refine (Frame.starts_abandon _ frames).trans ?_
    simp [Node.starts]
  | cons t rest ih =>
    have hstep := starts_advance frames expectation t rest
    rw [grow_cons, List.flatMap_cons, ← List.append_assoc]
    generalize advance frames expectation t rest = growth at hstep
    cases growth with
    | finished tree => exact hstep.trans (List.sublist_append_left _ _)
    | further frames' expectation' =>
      exact (ih frames' expectation').trans (hstep.append_right _)

end TextTree

/-! ## Starts in texts -/

/-- The token of a brace at a place. -/
def Token.brace (place : Place) : Token := ⟨.beginObject, place, place.after '\x7b'⟩

/-- The tokens that a step puts out. -/
def Step.tokens : Step → List Token
  | .more tokens _ | .stop tokens => tokens

/-- What a step says about objects: none starts in its tokens, or the last token is a brace and
nothing of the next token has been read. -/
inductive Step.Braces (place : Place) (c : Char) : Step → Prop
  | none {step : Step} : step.tokens.flatMap Token.objectStart = [] → Braces place c step
  | brace {tokens} : c = '\x7b' → tokens.flatMap Token.objectStart = [] →
    Braces place c (.more (tokens ++ [Token.brace place]) .between)

namespace Progress

variable {place : Place} {c : Char}

theorem begin_braces (place : Place) (c : Char) : (begin place c).Braces place c := by
  by_cases hbrace : c = '\x7b'
  · subst hbrace
    exact @Step.Braces.brace place _ [] rfl rfl
  · refine .none ?_
    unfold begin
    dsimp only
    split
    · rfl
    split
    · rfl
    · split <;> first | rfl | exact absurd rfl hbrace

theorem endNumeral_braces (start : Place) (read : Numeral) (place : Place) (c : Char) :
    (endNumeral start read place c).Braces place c := by
  have hbegin := begin_braces place c
  unfold endNumeral
  cases read.value? with
  | none => exact .none rfl
  | some value =>
    generalize begin place c = step at hbegin
    cases hbegin with
    | none hnone => cases step <;> exact .none hnone
    | @brace tokens hc hnone => exact @Step.Braces.brace place c (_ :: tokens) hc hnone

/-- **What a character says** about where objects start. -/
theorem step_braces (progress : Progress) (place : Place) (c : Char) :
    (step progress place c).Braces place c := by
  cases progress with
  | between => exact begin_braces place c
  | word start value rest =>
    cases rest with
    | nil => exact begin_braces place c
    | cons expected rest =>
      refine .none ?_
      unfold step
      dsimp only
      split_ifs <;> rfl
  | numeral start part read =>
    unfold step
    dsimp only
    cases extends_cases part read c with
    | broken h =>
      obtain ⟨reason, place', h⟩ := h start place
      rw [h]
      exact .none rfl
    | further part' read' _ h =>
      rw [h]
      exact .none rfl
    | ends h =>
      rw [h]
      exact endNumeral_braces start read place c
  | text start read | pair start read high | pairEscape start read high =>
    refine .none ?_
    unfold step
    dsimp only
    split_ifs <;> rfl
  | escape start read =>
    refine .none ?_
    unfold step
    dsimp only
    split_ifs
    · rfl
    · cases escapedChar? c <;> rfl
  | hex start read high missing value =>
    refine .none ?_
    unfold step
    dsimp only
    split_ifs
    · rfl
    · cases decodes high ((do return (← value) * 16 + (← hexValue? c))) with
      | broken reason h | text _ _ h | pair _ _ h =>
        rw [h]
        rfl

end Progress

namespace Token

open Progress

theorem flatMap_objectStart_finish (progress : Progress) (place : Place) :
    (finish progress place).flatMap objectStart = [] := by
  cases progress with
  | numeral start part read =>
    unfold finish numeralToken
    dsimp only
    split_ifs
    · cases read.value? <;> rfl
    · rfl
  | between | word | text | escape | hex | pair | pairEscape => rfl

/-- **A brace** at which an object starts stands between what is in front of it and what is behind
it, and the tokens in front do not depend on what is behind. -/
theorem exists_split {progress : Progress} {place start : Place} {cs : List Char}
    (h : start ∈ (scanFrom progress place cs).flatMap objectStart) :
    ∃ front back tokens, cs = front ++ '\x7b' :: back ∧ start = place.afterAll front ∧
      ∀ other, scanFrom progress place (front ++ '\x7b' :: other) =
        tokens ++ brace start :: scanFrom .between (start.after '\x7b') other := by
  induction cs generalizing progress place with
  | nil =>
    rw [scanFrom, flatMap_objectStart_finish] at h
    cases h
  | cons c cs ih =>
    have hstep := step_braces progress place c
    rw [scanFrom] at h
    cases hnext : step progress place c with
    | stop tokens =>
      rw [hnext] at hstep h
      cases hstep with
      | none hnone =>
        dsimp only at h
        rw [show tokens.flatMap objectStart = [] from hnone] at h
        cases h
    | more tokens next =>
      rw [hnext] at hstep h
      dsimp only at h
      rw [List.flatMap_append, List.mem_append] at h
      -- The brace is further on, or it is this character.
      by_cases hrest : start ∈ (scanFrom next (place.after c) cs).flatMap objectStart
      · obtain ⟨front, back, others, rfl, rfl, hsplit⟩ := ih hrest
        refine ⟨c :: front, back, tokens ++ others, rfl, rfl, fun other => ?_⟩
        rw [List.cons_append, scanFrom, hnext]
        dsimp only
        rw [hsplit other, List.append_assoc]
      · have htokens := h.resolve_right hrest
        cases hstep with
        | none hnone =>
          rw [show tokens.flatMap objectStart = [] from hnone] at htokens
          cases htokens
        | @brace before hc hnone =>
          rw [List.flatMap_append, hnone] at htokens
          obtain rfl := List.mem_singleton.mp htokens
          subst hc
          refine ⟨[], cs, before, rfl, rfl, fun other => ?_⟩
          rw [List.nil_append, scanFrom, hnext]
          simp [brace]

/-- The places of the characters from a place on. -/
def positions (place : Place) : List Char → List Place
  | [] => []
  | c :: cs => place :: positions (place.after c) cs

theorem before_of_mem_positions {place p : Place} {c : Char} {cs : List Char}
    (h : p ∈ positions (place.after c) cs) : place.Before p := by
  induction cs generalizing place c with
  | nil => cases h
  | cons d cs ih =>
    rcases List.mem_cons.mp h with rfl | h
    · exact place.before_after c
    · exact (place.before_after c).trans (ih h)

theorem pairwise_positions (place : Place) (cs : List Char) :
    (positions place cs).Pairwise Place.Before := by
  induction cs generalizing place with
  | nil => exact .nil
  | cons c cs ih => exact .cons (fun _ => before_of_mem_positions) (ih (place.after c))

theorem objectStarts_sublist (progress : Progress) (place : Place) (cs : List Char) :
    ((scanFrom progress place cs).flatMap objectStart).Sublist (positions place cs) := by
  induction cs generalizing progress place with
  | nil =>
    rw [scanFrom, flatMap_objectStart_finish]
    exact List.nil_sublist _
  | cons c cs ih =>
    have hstep := step_braces progress place c
    rw [scanFrom]
    cases hnext : step progress place c with
    | stop tokens =>
      rw [hnext] at hstep
      cases hstep with
      | none hnone =>
        dsimp only
        rw [show tokens.flatMap objectStart = [] from hnone]
        exact List.nil_sublist _
    | more tokens next =>
      rw [hnext] at hstep
      dsimp only
      rw [List.flatMap_append]
      cases hstep with
      | none hnone =>
        rw [show tokens.flatMap objectStart = [] from hnone, List.nil_append]
        exact (ih next (place.after c)).cons place
      | brace _ hnone =>
        rw [List.flatMap_append, hnone]
        exact (ih .between (place.after c)).cons_cons place

end Token

theorem Place.nodup_of_pairwise_before {places : List Place}
    (h : places.Pairwise Place.Before) : places.Nodup := by
  refine h.imp ?_
  rintro p _ hbefore rfl
  exact p.not_before_self hbefore

namespace TextTree

/-- **No two objects** of a text start at one place. -/
theorem nodup_starts (text : String) : (read text).root.starts.Nodup := by
  have hsublist := (grow_starts [] .value (Token.scan text)).trans
    (Token.objectStarts_sublist .between {} text.toList)
  exact hsublist.nodup (Place.nodup_of_pairwise_before (Token.pairwise_positions {} text.toList))

/-- Where an object of a text starts, the text is scanned in two parts. -/
theorem exists_split_of_mem_starts {text : String} {front back : List Char}
    (htext : text.toList = front ++ '\x7b' :: back)
    (hstart : ({} : Place).afterAll front ∈ (read text).root.starts) :
    ∃ tokens, ∀ other, Token.scanFrom .between {} (front ++ '\x7b' :: other) =
      tokens ++ Token.brace (({} : Place).afterAll front) ::
        Token.scanFrom .between ((({} : Place).afterAll front).after '\x7b') other := by
  have hmem := (grow_starts [] .value (Token.scan text)).subset hstart
  obtain ⟨front', back', tokens, hcs, hplace, hsplit⟩ := Token.exists_split hmem
  -- Both parts in front end at the same place, so that they are the same.
  have hfront : front' = front := by
    have hprefix : front <+: text.toList := ⟨_, htext.symm⟩
    have hprefix' : front' <+: text.toList := ⟨_, hcs.symm⟩
    exact Place.eq_of_afterAll_eq hprefix' hprefix hplace.symm
  rw [hfront] at hsplit
  exact ⟨tokens, hsplit⟩

end TextTree

end Stencil.Json
