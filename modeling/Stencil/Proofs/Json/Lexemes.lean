import Stencil.Proofs.Json.Alike
import Stencil.Proofs.Json.Scan

/-!
# The tokens that a tree is written with

The tree of a JSON text says which tokens the text has, but for their places: each open bracket with
what is in it tells the tokens that were read of it, and a step of growth adds one token to these.
So texts with the same tree have the same tokens.

## Main definitions

* `Node.lexemes`: the tokens that a tree is written with
* `Expectation.After`: the tokens that were read when something may come next
* `SameJson text other`: JSON texts with the same tree

## Main results

* `TextTree.spells_advance`: a step of growth adds its token
* `lexemes_scan`: the tokens of a JSON text are those of its tree
* `sameJson_iff`: texts with the same tree are those with the same tokens
-/

namespace Stencil.Json

mutual

/-- The tokens that a tree is written with. -/
def Node.lexemes : Node → List Lexeme
  | .broken _ => []
  | .scalar value _ => [.scalar value]
  | .list _ items => .beginList :: (itemLexemes items).tail ++ [.endList]
  | .object _ members => .beginObject :: (memberLexemes members).tail ++ [.endObject]

/-- The tokens of items, with a comma in front of each. -/
def itemLexemes : List Node → List Lexeme
  | [] => []
  | item :: items => .comma :: item.lexemes ++ itemLexemes items

/-- The tokens of members, with a comma in front of each. -/
def memberLexemes : List Member → List Lexeme
  | [] => []
  | .broken _ :: members => .comma :: memberLexemes members
  | .entry key _ value _ :: members =>
    .comma :: .scalar (.text key) :: .colon :: value.lexemes ++ memberLexemes members

end

theorem itemLexemes_append (items others : List Node) :
    itemLexemes (items ++ others) = itemLexemes items ++ itemLexemes others := by
  induction items with
  | nil => rfl
  | cons item items ih => simp [itemLexemes, ih]

theorem memberLexemes_append (members others : List Member) :
    memberLexemes (members ++ others) = memberLexemes members ++ memberLexemes others := by
  induction members with
  | nil => rfl
  | cons member members ih => cases member <;> simp [memberLexemes, ih]

mutual

/-- Trees that are the same but for places are written with the same tokens. -/
theorem Node.Alike.lexemes_eq {node node' : Node} (h : node.Alike Eq node') :
    node'.lexemes = node.lexemes := by
  match node, h with
  | .broken _, .broken => rfl
  | .scalar _ _, .scalar hscalar => rw [Node.lexemes, Node.lexemes, hscalar.eq]
  | .list _ items, .list hitems =>
    rw [Node.lexemes, Node.lexemes, itemLexemes_eq hitems]
  | .object _ members, .object hmembers =>
    rw [Node.lexemes, Node.lexemes, memberLexemes_eq hmembers]
termination_by sizeOf node

theorem itemLexemes_eq {items items' : List Node} (h : List.Forall₂ (Node.Alike Eq) items items') :
    itemLexemes items' = itemLexemes items := by
  match items, h with
  | [], .nil => rfl
  | item :: rest, .cons hitem hrest =>
    rw [itemLexemes, itemLexemes, hitem.lexemes_eq, itemLexemes_eq hrest]
termination_by sizeOf items

theorem memberLexemes_eq {members members' : List Member}
    (h : List.Forall₂ (Member.Alike Eq) members members') :
    memberLexemes members' = memberLexemes members := by
  match members, h with
  | [], .nil => rfl
  | .broken _ :: rest, .cons .broken hrest =>
    rw [memberLexemes, memberLexemes, memberLexemes_eq hrest]
  | .entry _ _ node _ :: rest, .cons (.entry hkey hnode) hrest =>
    rw [memberLexemes, memberLexemes, hkey, hnode.lexemes_eq, memberLexemes_eq hrest]
termination_by sizeOf members

end

/-! ## What was read -/

/-- The tokens that were read of an open bracket when a value or a key comes next in it. -/
def Frame.lexemes : Frame → List Lexeme
  | .list _ before => .beginList :: (itemLexemes before.reverse ++ [Lexeme.comma]).tail
  | .object _ before => .beginObject :: (memberLexemes before.reverse ++ [Lexeme.comma]).tail
  | .member _ before key _ =>
    .beginObject :: (memberLexemes before.reverse ++ [Lexeme.comma]).tail ++ [.scalar (.text key), .colon]

/-- The tokens that were read of all open brackets. -/
def openLexemes : List Frame → List Lexeme
  | [] => []
  | frame :: outer => openLexemes outer ++ frame.lexemes

/-- What may come next after some tokens, with the brackets that are open then. -/
inductive Expectation.After : Expectation → List Frame → List Lexeme → Prop
  | value {frames read} : (∀ frame ∈ frames, frame.HoldsValue) → read = openLexemes frames →
    After .value frames read
  | firstItem {start outer read} : (∀ frame ∈ outer, frame.HoldsValue) →
    read = openLexemes (.list start [] :: outer) → After .firstItem (.list start [] :: outer) read
  | afterItem {start item before outer read} : (∀ frame ∈ outer, frame.HoldsValue) →
    read = openLexemes outer ++ .beginList :: (itemLexemes (item :: before).reverse).tail →
    After .afterItem (.list start (item :: before) :: outer) read
  | firstKey {start outer read} : (∀ frame ∈ outer, frame.HoldsValue) →
    read = openLexemes (.object start [] :: outer) →
    After .firstKey (.object start [] :: outer) read
  | key {start before outer read} : (∀ frame ∈ outer, frame.HoldsValue) →
    read = openLexemes (.object start before :: outer) →
    After .key (.object start before :: outer) read
  | colon {start before key atKey outer read} : (∀ frame ∈ outer, frame.HoldsValue) →
    read = openLexemes (.object start before :: outer) ++ [.scalar (.text key)] →
    After .colon (.member start before key atKey :: outer) read
  | afterMember {start member before outer read} : (∀ frame ∈ outer, frame.HoldsValue) →
    read = openLexemes outer ++ .beginObject :: (memberLexemes (member :: before).reverse).tail →
    After .afterMember (.object start (member :: before) :: outer) read

theorem Expectation.After.fits {expectation : Expectation} {frames : List Frame}
    {read : List Lexeme} (h : expectation.After frames read) : expectation.Fits frames := by
  cases h with
  | value hframes _ => exact .value hframes
  | firstItem houter _ => exact .firstItem houter
  | afterItem houter _ => exact .afterItem houter
  | firstKey houter _ => exact .firstKey houter
  | key houter _ => exact .key houter
  | colon houter _ => exact .colon houter
  | afterMember houter _ => exact .afterMember houter

/-- What is in a bracket loses its first comma, also if nothing but this is in it. -/
theorem tail_append_comma (inside more : List Lexeme) :
    (inside ++ [Lexeme.comma]).tail ++ more = (inside ++ Lexeme.comma :: more).tail := by
  cases inside <;> simp

/-- A value goes on with the list that is open. -/
theorem Frame.lexemes_list_append (start : Place) (before : List Node) (node : Node) :
    (Frame.list start before).lexemes ++ node.lexemes =
      .beginList :: (itemLexemes (node :: before).reverse).tail := by
  rw [Frame.lexemes, List.cons_append, tail_append_comma, List.reverse_cons, itemLexemes_append]
  simp [itemLexemes]

/-- A value goes on with the member that is open. -/
theorem Frame.lexemes_member_append (start : Place) (before : List Member) (key : String)
    (atKey atValue : Place) (node : Node) :
    (Frame.member start before key atKey).lexemes ++ node.lexemes =
      .beginObject :: (memberLexemes (.entry key atKey node atValue :: before).reverse).tail := by
  rw [Frame.lexemes, List.append_assoc, List.cons_append, tail_append_comma, List.reverse_cons,
    memberLexemes_append]
  simp [memberLexemes]

/-- A comma goes on with a list that has items. -/
theorem Frame.lexemes_list_comma (start : Place) (item : Node) (before : List Node) :
    .beginList :: (itemLexemes (item :: before).reverse).tail ++ [.comma] =
      (Frame.list start (item :: before)).lexemes := by
  rw [Frame.lexemes, List.reverse_cons, itemLexemes_append, List.cons_append,
    ← List.tail_append_of_ne_nil]
  simp [itemLexemes]

/-- A comma goes on with an object that has members. -/
theorem Frame.lexemes_object_comma (start : Place) (member : Member) (before : List Member) :
    .beginObject :: (memberLexemes (member :: before).reverse).tail ++ [.comma] =
      (Frame.object start (member :: before)).lexemes := by
  rw [Frame.lexemes, List.reverse_cons, memberLexemes_append, List.cons_append,
    ← List.tail_append_of_ne_nil]
  cases member <;> simp [memberLexemes]

/-! ## Steps -/

/-- **What a step spells**: a fault, or a whole tree whose last token it is, or one token more of
what is read. -/
inductive Growth.Spells (t : Token) (rest : List Token) (read : List Lexeme) : Growth → Prop
  | fault {node} : ¬ node.Sound → Spells t rest read (.finished ⟨node, none⟩)
  | last {node} : node.lexemes = read ++ [t.lexeme] →
    Spells t rest read (.finished ⟨node, TextTree.trailing? rest⟩)
  | further {frames expectation} : expectation.After frames (read ++ [t.lexeme]) →
    Spells t rest read (.further frames expectation)

namespace TextTree

open Growth (Spells)

variable {t : Token} {rest : List Token} {frames : List Frame} {read : List Lexeme}

theorem spells_stop {fault : Fault} (hframes : ∀ frame ∈ frames, frame.HoldsValue) :
    Spells t rest read (stop (.broken fault) frames) :=
  .fault (Frame.not_sound_abandon (Node.not_sound_broken fault) hframes)

theorem spells_stopMember {fault : Fault} {start : Place} {before : List Member}
    (hframes : ∀ frame ∈ frames, frame.HoldsValue) :
    Spells t rest read (stopMember fault (.object start before :: frames)) :=
  .fault (Frame.not_sound_abandonMember fault hframes)

/-- A value is complete with the token. -/
theorem spells_complete {node : Node} (hframes : ∀ frame ∈ frames, frame.HoldsValue)
    (hread : openLexemes frames ++ node.lexemes = read ++ [t.lexeme]) :
    Spells t rest read (complete node rest frames) := by
  rcases frames with _ | ⟨frame, outer⟩
  · exact .last hread
  · obtain ⟨hframe, houter⟩ := List.forall_mem_cons.mp hframes
    rw [openLexemes, List.append_assoc] at hread
    cases frame with
    | list start before =>
      rw [Frame.lexemes_list_append] at hread
      exact .further (.afterItem houter hread.symm)
    | object start before => exact hframe.elim
    | member start before key atKey =>
      -- Where the member ends does not matter for its tokens.
      rw [Frame.lexemes_member_append start before key atKey (Token.settle rest)] at hread
      exact .further (.afterMember houter hread.symm)

theorem spells_openWith {frame : Frame} {expectation : Expectation}
    (hframes : ∀ frame ∈ frames, frame.HoldsValue)
    (hafter : expectation.After (frame :: frames) (read ++ [t.lexeme])) :
    Spells t rest read (openWith frame expectation t frames) := by
  unfold openWith
  split
  · exact .further hafter
  · exact spells_stop hframes

theorem spells_advanceValue (hframes : ∀ frame ∈ frames, frame.HoldsValue)
    (hread : read = openLexemes frames) :
    Spells t rest read (advanceValue frames t rest) := by
  subst hread
  unfold advanceValue
  split <;> rename_i hlexeme
  · exact spells_complete hframes (by rw [hlexeme, Node.lexemes])
  · exact spells_openWith hframes (.firstItem hframes (by rw [hlexeme]; rfl))
  · exact spells_openWith hframes (.firstKey hframes (by rw [hlexeme]; rfl))
  all_goals exact spells_stop hframes

theorem spells_advanceKey {start : Place} {before : List Member}
    (hframes : ∀ frame ∈ frames, frame.HoldsValue)
    (hread : read = openLexemes (.object start before :: frames)) :
    Spells t rest read (advanceKey frames start before t rest) := by
  unfold advanceKey
  split <;> rename_i hlexeme
  · exact .further (.colon hframes (by rw [hread, hlexeme]))
  all_goals exact spells_stopMember hframes

/-- **A step of growth** adds its token to what was read. -/
theorem spells_advance {expectation : Expectation} (h : expectation.After frames read) :
    Spells t rest read (advance frames expectation t rest) := by
  unfold advance
  cases h with
  | value hframes hread =>
    dsimp only
    split
    · exact spells_stop hframes
    · exact spells_advanceValue hframes hread
  | @firstItem start outer _ houter hread =>
    have hframes : ∀ frame ∈ Frame.list start [] :: outer, frame.HoldsValue :=
      List.forall_mem_cons.mpr ⟨trivial, houter⟩
    dsimp only
    split <;> rename_i hlexeme
    · refine spells_complete houter ?_
      rw [hread, hlexeme, openLexemes, List.append_assoc]
      rfl
    · exact spells_stop hframes
    · exact spells_advanceValue hframes hread
  | @afterItem start item before outer _ houter hread =>
    have hframes : ∀ frame ∈ Frame.list start (item :: before) :: outer, frame.HoldsValue :=
      List.forall_mem_cons.mpr ⟨trivial, houter⟩
    dsimp only
    split <;> rename_i hlexeme
    · refine spells_complete houter ?_
      rw [hread, hlexeme, Node.lexemes, List.append_assoc]
    · refine .further (.value hframes ?_)
      rw [hread, hlexeme, List.append_assoc, Frame.lexemes_list_comma start, openLexemes]
    all_goals exact spells_stop hframes
  | @firstKey start outer _ houter hread =>
    dsimp only
    split <;> rename_i hlexeme
    · refine spells_complete houter ?_
      rw [hread, hlexeme, openLexemes, List.append_assoc]
      rfl
    · exact spells_stopMember houter
    · exact spells_advanceKey houter hread
  | key houter hread =>
    dsimp only
    split
    · exact spells_stopMember houter
    · exact spells_stopMember houter
    · exact spells_advanceKey houter hread
  | @colon start before key atKey outer _ houter hread =>
    have hframes : ∀ frame ∈ Frame.member start before key atKey :: outer, frame.HoldsValue :=
      List.forall_mem_cons.mpr ⟨trivial, houter⟩
    dsimp only
    split <;> rename_i hlexeme
    · refine .further (.value hframes ?_)
      simp [hread, hlexeme, openLexemes, Frame.lexemes]
    all_goals exact spells_stop hframes
  | @afterMember start member before outer _ houter hread =>
    dsimp only
    split <;> rename_i hlexeme
    · refine spells_complete houter ?_
      rw [hread, hlexeme, Node.lexemes, List.append_assoc]
    · refine .further (.key houter ?_)
      rw [hread, hlexeme, List.append_assoc, Frame.lexemes_object_comma start, openLexemes]
    all_goals exact spells_stopMember houter

end TextTree

/-! ## Whole texts -/

theorem Growth.Follows.passes {t : Token} {rest : List Token} {growth : Growth}
    (h : growth.Follows t rest) (hsound : (growth.tree rest).Sound) : t.lexeme.Passes := by
  cases h with
  | fault hfault => exact absurd hsound.1 hfault
  | last ht | further ht _ => exact ht

namespace TextTree

/-- What comes behind a whole tree is the end of the text. -/
theorem lexemes_of_trailing? {tokens : List Token} (hwhole : Token.Whole tokens)
    (h : trailing? tokens = none) : tokens.map Token.lexeme = [.finish] := by
  cases hwhole with
  | finish hfinish => exact congrArg (List.cons · []) hfinish
  | cons ht _ =>
    rw [trailing?] at h
    split at h
    · rename_i hfinish
      rw [hfinish] at ht
      exact ht.elim
    · cases h

/-- **A tree without faults** is written with the tokens that were read and those that come. -/
theorem lexemes_of_sound {expectation : Expectation} {frames : List Frame} {read : List Lexeme}
    (hafter : expectation.After frames read) {tokens : List Token} (hwhole : Token.Whole tokens)
    (h : (grow frames expectation tokens).Sound) :
    read ++ tokens.map Token.lexeme = (grow frames expectation tokens).root.lexemes ++ [.finish] := by
  -- The induction goes along the tokens that come; those that were read are in the invariant.
  induction tokens generalizing frames expectation read with
  | nil => cases hwhole
  | cons t rest ih =>
    have hfollows := @follows_advance t rest frames expectation hafter.fits
    have hspells := @spells_advance t rest frames read expectation hafter
    rw [grow_cons] at h ⊢
    have ht := hfollows.passes h
    -- A token that passes is not the end of the text, so that there are more.
    have hrest : Token.Whole rest := by
      cases hwhole with
      | finish hfinish =>
        rw [hfinish] at ht
        exact ht.elim
      | cons _ hrest => exact hrest
    generalize advance frames expectation t rest = growth at h hspells ⊢
    cases hspells with
    | fault hfault => exact absurd h.1 hfault
    | last hnode =>
      rw [List.map_cons, lexemes_of_trailing? hrest h.2, Growth.tree, hnode, List.append_assoc]
      rfl
    | further hnext =>
      rw [List.map_cons, List.append_cons]
      exact ih hnext hrest h

end TextTree

/-- **The tokens of a JSON text** are those that its tree is written with. -/
theorem lexemes_scan {text : String} (h : IsJson text) :
    (Token.scan text).map Token.lexeme = (TextTree.read text).root.lexemes ++ [.finish] :=
  TextTree.lexemes_of_sound (.value (List.forall_mem_nil _) rfl) h.whole_scan (isJson_iff.mp h)

/-! ## Texts with the same tree -/

deriving instance DecidableEq for Found, Expected, Reason, Fault, Lexeme

/-- Two JSON texts with the same members and items in the same order, with the same keys, texts and
numbers, however they are written. -/
structure SameJson (text other : String) : Prop where
  left : IsJson text
  right : IsJson other
  root : (TextTree.read text).root.Alike Eq (TextTree.read other).root

theorem tokensAlike_of_eq {tokens tokens' : List Token}
    (h : tokens'.map Token.lexeme = tokens.map Token.lexeme) : TokensAlike Eq tokens tokens' := by
  have hlexemes : List.Forall₂ Eq (tokens.map Token.lexeme) (tokens'.map Token.lexeme) := by
    rw [h]
    exact List.forall₂_refl _
  rw [List.forall₂_map_left_iff, List.forall₂_map_right_iff] at hlexemes
  exact hlexemes.imp fun t t' ht => ht ▸ Lexeme.Alike.refl (fun _ => rfl) t.lexeme

/-- **JSON texts with the same tree** are those with the same tokens, but for their places. -/
theorem sameJson_iff {text other : String} : SameJson text other ↔
    IsJson text ∧ (Token.scan other).map Token.lexeme = (Token.scan text).map Token.lexeme := by
  constructor
  · rintro ⟨htext, hother, hroot⟩
    refine ⟨htext, ?_⟩
    rw [lexemes_scan htext, lexemes_scan hother, hroot.lexemes_eq]
  · -- The same tokens grow into the same tree, and with it the other text is one too.
    rintro ⟨htext, hlexemes⟩
    have htree : (TextTree.read text).Alike Eq (TextTree.read other) :=
      TextTree.grow_alike (tokensAlike_of_eq hlexemes)
    exact ⟨htext, isJson_iff.mpr (htree.sound_iff.mp (isJson_iff.mp htext)), htree.root⟩

instance (text other : String) : Decidable (SameJson text other) :=
  decidable_of_iff _ sameJson_iff.symm

end Stencil.Json
