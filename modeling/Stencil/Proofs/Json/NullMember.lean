import Stencil.Proofs.Json.GainedNull

/-!
# A null member in a text

A member that is null is put behind the brace of an object, with a comma unless the object ends
there. The tree of the text then gains a null in this object.

## Main definitions

* `nullMember key back`: what is put in front of the rest of a text

## Main results

* `Token.head_of_endsObject`, `Token.head_of_not_endsObject`: whether an object ends at once
* `TextTree.gainsNull`: the tree of a text with one more member
-/

namespace Stencil.Json

variable {key : String}

/-! ## Texts with one more member -/

/-- Whether the end of an object comes next. -/
def endsObject (cs : List Char) : Bool := (cs.dropWhile isSpace).head? == some '\x7d'

/-- A member that is null, and a comma unless the object ends with it. -/
def nullMember (key : String) (back : List Char) : List Char :=
  ['"'] ++ key.toList ++ "\":null".toList ++ if endsObject back then [] else [',']

/-- A character that stands for itself in a text literal. -/
def IsLiteral (c : Char) : Prop := c ≠ '"' ∧ c ≠ '\\' ∧ ¬ c.toNat < 0x20

instance : DecidablePred IsLiteral := fun _ => inferInstanceAs (Decidable (_ ∧ _ ∧ _))

namespace Token

theorem scanFrom_text_append {cs : List Char} (h : ∀ c ∈ cs, IsLiteral c) (start : Place)
    (read : List Char) (place : Place) (rest : List Char) :
    scanFrom (.text start read) place (cs ++ rest) =
      scanFrom (.text start (cs.reverse ++ read)) (place.afterAll cs) rest := by
  induction cs generalizing read place with
  | nil => rfl
  | cons c cs ih =>
    obtain ⟨⟨hquote, hbackslash, hcontrol⟩, hrest⟩ := List.forall_mem_cons.mp h
    rw [List.cons_append, scanFrom, Progress.step]
    simp only [if_neg hquote, if_neg hbackslash, if_neg hcontrol]
    rw [List.nil_append, ih hrest]
    simp

/-- The tokens of a null member. -/
theorem scanFrom_null (hkey : ∀ c ∈ key.toList, IsLiteral c) (place : Place) (rest : List Char) :
    ∃ t₁ t₂ t₃ place', t₁.lexeme = .scalar (.text key) ∧ t₂.lexeme = .colon ∧
      t₃.lexeme = .scalar .null ∧
      scanFrom .between place (['"'] ++ key.toList ++ "\":null".toList ++ rest) =
        t₁ :: t₂ :: t₃ :: scanFrom .between place' rest := by
  have hquote : scanFrom .between place (['"'] ++ key.toList ++ "\":null".toList ++ rest) =
      scanFrom (.text place []) (place.after '"') (key.toList ++ ("\":null".toList ++ rest)) := by
    rw [List.append_assoc, List.append_assoc]
    rfl
  rw [hquote, scanFrom_text_append hkey]
  refine ⟨⟨.scalar (.text (String.ofList (key.toList.reverse ++ []).reverse)), _, _⟩, _, _, _, ?_,
    rfl, rfl, rfl⟩
  simp

end Token

/-! ## The token behind a brace -/

/-- Some characters of a token have been read. -/
def Progress.Inside : Progress → Prop
  | .between => False
  | .word _ _ rest => rest ≠ []
  | _ => True

/-- The first token that comes is not the end of an object. -/
inductive Step.GoesOn : Step → Prop
  | inside {progress : Progress} : progress.Inside → GoesOn (.more [] progress)
  | more {t tokens progress} : t.lexeme ≠ .endObject → GoesOn (.more (t :: tokens) progress)
  | stop {t tokens} : t.lexeme ≠ .endObject → GoesOn (.stop (t :: tokens))

theorem Token.broken_ne_endObject (start : Place) (isText : Bool) (reason : Reason)
    (place : Place) : (Token.broken start isText reason place).lexeme ≠ .endObject := nofun

theorem Token.ne_endObject_of_head {t : Token} {tokens : List Token} (h : t.lexeme ≠ .endObject) :
    ∀ first ∈ (t :: tokens).head?, first.lexeme ≠ .endObject := by
  intro first hfirst
  obtain rfl := Option.some.inj hfirst
  exact h

namespace Progress

theorem begin_goesOn {c : Char} (hspace : ¬ isSpace c = true) (hend : c ≠ '\x7d') (place : Place) :
    (begin place c).GoesOn := by
  unfold begin
  dsimp only
  rw [if_neg hspace]
  split
  · exact .inside trivial
  · split
    case h_2 => exact absurd rfl hend
    all_goals
      first
      | exact .more nofun
      | exact .stop nofun
      | exact .inside trivial
      | exact .inside (List.cons_ne_nil _ _)

/-- A token is read to its end before the next one. -/
theorem step_goesOn {progress : Progress} (h : progress.Inside) (place : Place) (c : Char) :
    (step progress place c).GoesOn := by
  have hbroken : ∀ start isText reason place',
      (Step.stop [Token.broken start isText reason place']).GoesOn := by
    intro start isText reason place'
    exact .stop (Token.broken_ne_endObject start isText reason place')
  cases progress with
  | between => exact h.elim
  | word start value rest =>
    obtain ⟨expected, rest, rfl⟩ := List.exists_cons_of_ne_nil h
    unfold step
    dsimp only
    split_ifs with hne hempty
    · exact hbroken _ _ _ _
    · exact .more nofun
    · exact .inside fun hnil => hempty (List.isEmpty_iff.mpr hnil)
  | numeral start part read =>
    unfold step
    dsimp only
    cases extends_cases part read c with
    | broken hstep =>
      obtain ⟨reason, place', hstep⟩ := hstep start place
      rw [hstep]
      exact hbroken _ _ _ _
    | further part' read' _ hstep =>
      rw [hstep]
      exact .inside trivial
    | ends hstep =>
      rw [hstep]
      unfold endNumeral
      cases read.value? with
      | none => exact hbroken _ _ _ _
      | some value => cases begin place c <;> first | exact .more nofun | exact .stop nofun
  | text start read =>
    unfold step
    dsimp only
    split_ifs
    · exact .more nofun
    · exact .inside trivial
    · exact hbroken _ _ _ _
    · exact .inside trivial
  | escape start read =>
    unfold step
    dsimp only
    split_ifs
    · exact .inside trivial
    · cases escapedChar? c with
      | some escaped => exact .inside trivial
      | none => exact hbroken _ _ _ _
  | hex start read high missing value =>
    unfold step
    dsimp only
    split_ifs
    · exact .inside trivial
    · cases decodes high ((do return (← value) * 16 + (← hexValue? c))) with
      | broken reason hstep =>
        rw [hstep]
        exact hbroken _ _ _ _
      | text _ _ hstep | pair _ _ hstep =>
        rw [hstep]
        exact .inside trivial
  | pair start read high | pairEscape start read high =>
    unfold step
    dsimp only
    split_ifs
    · exact .inside trivial
    · exact hbroken _ _ _ _

end Progress

namespace Token

open Progress

theorem finish_goesOn {progress : Progress} (h : progress.Inside) (place : Place) :
    ∀ t ∈ (finish progress place).head?, t.lexeme ≠ .endObject := by
  cases progress with
  | between => exact h.elim
  | numeral start part read =>
    unfold finish numeralToken
    dsimp only
    split_ifs
    · cases read.value? with
      | some value => exact ne_endObject_of_head nofun
      | none => exact ne_endObject_of_head (broken_ne_endObject _ _ _ _)
    · exact ne_endObject_of_head (broken_ne_endObject _ _ _ _)
  | word | text | escape | hex | pair | pairEscape =>
    exact ne_endObject_of_head (broken_ne_endObject _ _ _ _)

theorem scanFrom_of_inside {progress : Progress} (h : progress.Inside) (place : Place)
    (cs : List Char) : ∀ t ∈ (scanFrom progress place cs).head?, t.lexeme ≠ .endObject := by
  induction cs generalizing progress place with
  | nil =>
    rw [scanFrom]
    exact finish_goesOn h place
  | cons c cs ih =>
    have hstep := step_goesOn h place c
    rw [scanFrom]
    generalize step progress place c = step at hstep
    cases hstep with
    | inside hinside => exact ih hinside _
    | more hne | stop hne => exact ne_endObject_of_head hne

theorem head_of_endsObject {cs : List Char} (h : endsObject cs = true) (place : Place) :
    ∃ t ∈ (scanFrom .between place cs).head?, t.lexeme = .endObject := by
  induction cs generalizing place with
  | nil => cases h
  | cons c cs ih =>
    unfold endsObject at h
    by_cases hspace : isSpace c = true
    · rw [List.dropWhile_cons_of_pos hspace] at h
      have hblank : begin place c = .more [] .between := if_pos hspace
      rw [scanFrom, step, hblank]
      exact ih h _
    · rw [List.dropWhile_cons_of_neg hspace] at h
      obtain rfl : c = '\x7d' := Option.some.inj (beq_iff_eq.mp h)
      exact ⟨_, rfl, rfl⟩

theorem head_of_not_endsObject {cs : List Char} (h : ¬ endsObject cs = true) (place : Place) :
    ∀ t ∈ (scanFrom .between place cs).head?, t.lexeme ≠ .endObject := by
  induction cs generalizing place with
  | nil => exact ne_endObject_of_head nofun
  | cons c cs ih =>
    unfold endsObject at h
    by_cases hspace : isSpace c = true
    · rw [List.dropWhile_cons_of_pos hspace] at h
      have hblank : begin place c = .more [] .between := if_pos hspace
      rw [scanFrom, step, hblank]
      exact ih h _
    · rw [List.dropWhile_cons_of_neg hspace] at h
      have hend : c ≠ '\x7d' := by
        rintro rfl
        exact h rfl
      have hstep := begin_goesOn hspace hend place
      rw [scanFrom, step]
      generalize begin place c = step at hstep
      cases hstep with
      | inside hinside => exact scanFrom_of_inside hinside _ _
      | more hne | stop hne => exact ne_endObject_of_head hne

end Token

/-- **The tree of a text** with a null in front of the members of an object has gained it, and no
more. -/
theorem TextTree.gainsNull {text widened : String} {front back : List Char}
    (hkey : ∀ c ∈ key.toList, IsLiteral c) (htext : text.toList = front ++ '\x7b' :: back)
    (hwidened : widened.toList = front ++ '\x7b' :: (nullMember key back ++ back))
    (hstart : ({} : Place).afterAll front ∈ (read text).root.starts) :
    (read text).Related (Node.GainsNull (({} : Place).afterAll front) key) (read widened) := by
  obtain ⟨before, hsplit⟩ := exists_split_of_mem_starts htext hstart
  rw [read, read, Token.scan, Token.scan, htext, hwidened, hsplit, hsplit]
  refine grow_brace_related (fun _ => rfl) (grows_gainsNull _ key) ?_ before .nil .value
  intro outer outer' houter
  -- The object ends behind the null, or a comma and what else is in it follow.
  unfold nullMember
  by_cases hends : endsObject back = true
  · obtain ⟨t₁, t₂, t₃, place', h₁, h₂, h₃, hscan⟩ := Token.scanFrom_null hkey
      ((({} : Place).afterAll front).after '\x7b') back
    rw [if_pos hends, List.append_nil, hscan]
    exact grow_last_null houter h₁ h₂ h₃ (Token.scanFrom_move _ place' back)
      (Token.head_of_endsObject hends _)
  · obtain ⟨t₁, t₂, t₃, place', h₁, h₂, h₃, hscan⟩ := Token.scanFrom_null hkey
      ((({} : Place).afterAll front).after '\x7b') ([','] ++ back)
    rw [if_neg hends, List.append_assoc, hscan]
    have hcomma : Token.scanFrom .between place' ([','] ++ back) =
        ⟨.comma, place', place'.after ','⟩ :: Token.scanFrom .between (place'.after ',') back := rfl
    rw [hcomma]
    exact grow_first_null houter h₁ h₂ h₃ (Token.scanFrom_move _ _ back) rfl
      (Token.head_of_not_endsObject hends _)

end Stencil.Json
