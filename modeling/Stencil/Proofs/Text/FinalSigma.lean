import Stencil.Proofs.Text.CasePairs

/-!
# The sigma at the end of a word

Lower case of a text is lower case of each of its characters, but for the capital sigma at the end
of a word. Whether a sigma is there can be seen from the characters around it in lower case, so
that two texts which are alike character by character have the same lower case unless one has a
capital sigma at the end of a word where the other has a small one.

## Main definitions

* `lowerEach s`: lower case of each character on its own
* `EndsWord before after`: a capital sigma between two texts is the end of a word
* `SigmaTwins s t`: texts alike but for case, with a capital sigma at the end of a word in the one
  and a small sigma in the other

## Main results

* `startsCased_flatMap_lower`, `startsCased_reverse_flatMap_lower`: where a word starts or ends does
  not depend on case
* `lowerText_eq_iff`: when texts that are alike character by character have the same lower case
-/

namespace Stencil.Text

/-- Lower case of each character on its own. -/
def lowerEach (s : String) : String := String.ofList (s.toList.flatMap lower)

/-- A capital sigma between the two texts would be at the end of a word. -/
def EndsWord (before after : List Char) : Prop :=
  startsCased before.reverse = true ∧ startsCased after = false

/-- Texts that are alike but for case, with a capital sigma at the end of a word in the first
where the second has a small sigma. -/
def SigmaTwins (s t : String) : Prop :=
  ∃ before after before' after', s.toList = before ++ 'Σ' :: after ∧
    t.toList = before' ++ 'σ' :: after' ∧ EndsWord before after ∧
    before.flatMap lower = before'.flatMap lower ∧ after.flatMap lower = after'.flatMap lower

/-! ## Words in lower case -/

theorem startsCased_cons_of_isLetter {c : Char} (h : IsLetter c) (rest : List Char) :
    startsCased (c :: rest) = true := by
  rw [startsCased, List.dropWhile_cons_of_neg (by simp [h.kept])]
  exact h.cased

theorem startsCased_cons_of_ignorable {c : Char} (h : isCaseIgnorable c = true)
    (rest : List Char) : startsCased (c :: rest) = startsCased rest := by
  rw [startsCased, List.dropWhile_cons_of_pos h]
  rfl

theorem startsCased_cons_congr (c : Char) {cs ds : List Char}
    (h : startsCased cs = startsCased ds) : startsCased (c :: cs) = startsCased (c :: ds) := by
  by_cases hc : isCaseIgnorable c = true
  · rw [startsCased_cons_of_ignorable hc, startsCased_cons_of_ignorable hc, h]
  · rw [startsCased, startsCased, List.dropWhile_cons_of_neg hc, List.dropWhile_cons_of_neg hc]
    rfl

/-- The lower case of a character may stand for the character, read in either direction. -/
theorem startsCased_lower_append (c : Char) {cs ds : List Char}
    (h : startsCased cs = startsCased ds) :
    startsCased (lower c ++ cs) = startsCased (c :: ds) ∧
      startsCased ((lower c).reverse ++ cs) = startsCased (c :: ds) := by
  rcases lower_cases c with hc | ⟨r, hr, hcovers, hc⟩ | ⟨rfl, hc⟩
  · rw [hc]
    exact ⟨startsCased_cons_congr c h, startsCased_cons_congr c h⟩
  · have hletter := startsCased_cons_of_isLetter (CaseRun.isLetter hr hcovers) ds
    have himage := startsCased_cons_of_isLetter (CaseRun.isLetter_image hr hcovers) cs
    rw [hc, hletter]
    exact ⟨himage, himage⟩
  · -- The dot above is passed over in front of the `i`.
    have hdotted : IsLetter 'İ' := ⟨by decide +kernel, by decide +kernel⟩
    have hsmall : IsLetter 'i' := ⟨by decide +kernel, by decide +kernel⟩
    rw [hc, startsCased_cons_of_isLetter hdotted]
    refine ⟨startsCased_cons_of_isLetter hsmall _, ?_⟩
    refine (startsCased_cons_of_ignorable (by decide +kernel) _).trans ?_
    exact startsCased_cons_of_isLetter hsmall cs

theorem startsCased_flatMap {f : Char → List Char}
    (hf : ∀ c cs ds, startsCased cs = startsCased ds →
      startsCased (f c ++ cs) = startsCased (c :: ds)) (cs : List Char) :
    startsCased (cs.flatMap f) = startsCased cs := by
  induction cs with
  | nil => rfl
  | cons c cs ih => rw [List.flatMap_cons, hf c _ cs ih]

theorem startsCased_flatMap_lower (cs : List Char) :
    startsCased (cs.flatMap lower) = startsCased cs :=
  startsCased_flatMap (fun c _ _ h => (startsCased_lower_append c h).1) cs

theorem startsCased_reverse_flatMap_lower (cs : List Char) :
    startsCased (cs.flatMap lower).reverse = startsCased cs.reverse := by
  rw [List.reverse_flatMap]
  exact startsCased_flatMap (fun c _ _ h => (startsCased_lower_append c h).2) cs.reverse

/-- **The end of a word** is the same place in texts that are alike but for case. -/
theorem EndsWord.of_flatMap_lower_eq {before after before' after' : List Char}
    (h : EndsWord before after) (hbefore : before.flatMap lower = before'.flatMap lower)
    (hafter : after.flatMap lower = after'.flatMap lower) : EndsWord before' after' := by
  constructor
  · rw [← startsCased_reverse_flatMap_lower, ← hbefore, startsCased_reverse_flatMap_lower]
    exact h.1
  · rw [← startsCased_flatMap_lower, ← hafter, startsCased_flatMap_lower]
    exact h.2

/-! ## Lower case of a text, place by place -/

/-- The lower case of a character behind the characters `passed`, the nearest first, and in front
of `rest`. -/
def lowerBetween (passed rest : List Char) (c : Char) : List Char :=
  if c = 'Σ' then if startsCased passed && !startsCased rest then ['ς'] else ['σ'] else lower c

theorem lowerFrom_cons (passed : List Char) (c : Char) (rest : List Char) :
    lowerFrom passed (c :: rest) = lowerBetween passed rest c ++ lowerFrom (c :: passed) rest := rfl

theorem lower_sigma : lower 'Σ' = ['σ'] := by decide

theorem lower_small_sigma : lower 'σ' = ['σ'] := by decide

theorem lowerBetween_of_endsWord {before after : List Char} (h : EndsWord before after) :
    lowerBetween before.reverse after 'Σ' = ['ς'] := by
  simp [lowerBetween, h.1, h.2]

theorem lowerBetween_of_not_endsWord {before after : List Char} {c : Char}
    (h : ¬ (c = 'Σ' ∧ EndsWord before after)) :
    lowerBetween before.reverse after c = lower c := by
  unfold lowerBetween
  by_cases hc : c = 'Σ'
  · subst hc
    rw [if_pos rfl, if_neg, lower_sigma]
    intro hends
    rw [Bool.and_eq_true, Bool.not_eq_true'] at hends
    exact h ⟨rfl, hends⟩
  · rw [if_neg hc]

theorem length_lowerBetween (passed rest : List Char) (c : Char) :
    (lowerBetween passed rest c).length = (lower c).length := by
  unfold lowerBetween
  split
  · rename_i hc
    subst hc
    split <;> rfl
  · rfl

theorem length_lowerFrom (passed cs : List Char) :
    (lowerFrom passed cs).length = (cs.flatMap lower).length := by
  induction cs generalizing passed with
  | nil => rfl
  | cons c cs ih =>
    rw [lowerFrom_cons, List.length_append, List.flatMap_cons, List.length_append, ih,
      length_lowerBetween]

/-- The lower case of a character has its place in that of the text. -/
theorem exists_lowerFrom_append (passed before : List Char) (c : Char) (after : List Char) :
    ∃ front back, lowerFrom passed (before ++ c :: after) =
        front ++ (lowerBetween (before.reverse ++ passed) after c ++ back) ∧
      front.length = (before.flatMap lower).length := by
  induction before generalizing passed with
  | nil => exact ⟨[], lowerFrom (c :: passed) after, rfl, rfl⟩
  | cons d before ih =>
    obtain ⟨front, back, heq, hlength⟩ := ih (d :: passed)
    refine ⟨lowerBetween passed (before ++ c :: after) d ++ front, back, ?_, ?_⟩
    · rw [List.cons_append, lowerFrom_cons, heq, List.append_assoc, List.reverse_cons,
        List.append_assoc]
      rfl
    · rw [List.length_append, hlength, length_lowerBetween, List.flatMap_cons, List.length_append]

/-- An element of the images of a list under `f` comes from one of its elements. -/
theorem exists_of_flatMap_eq_append {α β : Type} {f : α → List β} {s : List α} {front back : List β}
    {x : β} (h : s.flatMap f = front ++ x :: back) :
    ∃ before c after left right, s = before ++ c :: after ∧ f c = left ++ x :: right ∧
      front = before.flatMap f ++ left ∧ back = right ++ after.flatMap f := by
  induction s generalizing front with
  | nil => simp at h
  | cons c s ih =>
    rw [List.flatMap_cons] at h
    rcases List.append_eq_append_iff.mp h with ⟨between, hfront, hrest⟩ | ⟨between, hc, hback⟩
    · obtain ⟨before, d, after, left, right, rfl, hd, rfl, rfl⟩ := ih hrest
      exact ⟨c :: before, d, after, left, right, rfl, hd, by rw [hfront]; simp, rfl⟩
    · cases between with
      | nil =>
        -- The image of the first element ends right in front of `x`.
        obtain ⟨before, d, after, left, right, rfl, hd, hleft, rfl⟩ := @ih [] hback.symm
        refine ⟨c :: before, d, after, left, right, rfl, hd, ?_, rfl⟩
        rw [List.flatMap_cons, List.append_assoc, ← hleft, hc, List.append_nil, List.append_nil]
      | cons y between =>
        obtain ⟨rfl, hrest⟩ := List.cons.inj hback
        exact ⟨[], c, s, front, between, rfl, hc, rfl, hrest⟩

/-- Lower case of a text at the place of a character `x` of its characters' lower case. -/
theorem getElem?_lowerFrom {s front back : List Char} {x : Char}
    (h : s.flatMap lower = front ++ x :: back) :
    ∃ before c after left right, s = before ++ c :: after ∧ lower c = left ++ x :: right ∧
      front = before.flatMap lower ++ left ∧ back = right ++ after.flatMap lower ∧
      (lowerFrom [] s)[front.length]? = (lowerBetween before.reverse after c)[left.length]? := by
  obtain ⟨before, c, after, left, right, rfl, hc, rfl, rfl⟩ := exists_of_flatMap_eq_append h
  refine ⟨before, c, after, left, right, rfl, hc, rfl, rfl, ?_⟩
  obtain ⟨front, back, heq, hlength⟩ := exists_lowerFrom_append [] before c after
  have hleft : left.length < (lowerBetween (before.reverse ++ []) after c).length := by
    rw [length_lowerBetween, hc, List.length_append, List.length_cons]
    omega
  rw [heq, List.length_append, ← hlength, List.getElem?_append_right (by omega),
    Nat.add_sub_cancel_left, List.getElem?_append_left hleft, List.append_nil]

/-! ## Texts that are alike but for case -/

theorem lowerEach_inj {s t : String} :
    lowerEach s = lowerEach t ↔ s.toList.flatMap lower = t.toList.flatMap lower := by
  rw [lowerEach, lowerEach, String.ofList_inj]

/-- The lower case of a sigma is a single character. -/
theorem eq_nil_of_sigma {left right : List Char} {x : Char} (h : ['σ'] = left ++ x :: right) :
    left = [] ∧ x = 'σ' ∧ right = [] := by
  cases left with
  | nil =>
    obtain ⟨hx, hright⟩ := List.cons.inj h
    exact ⟨rfl, hx.symm, hright.symm⟩
  | cons c left => simp at h

theorem SigmaTwins.lowerEach_eq {s t : String} (h : SigmaTwins s t) :
    lowerEach s = lowerEach t := by
  obtain ⟨before, after, before', after', hs, ht, -, hbefore, hafter⟩ := h
  rw [lowerEach_inj, hs, ht, List.flatMap_append, List.flatMap_append, List.flatMap_cons,
    List.flatMap_cons, hbefore, hafter, lower_sigma, lower_small_sigma]

/-- Lower case tells a final small sigma from another one. -/
theorem SigmaTwins.lowerText_ne {s t : String} (h : SigmaTwins s t) :
    lowerText s ≠ lowerText t := by
  obtain ⟨before, after, before', after', hs, ht, hends, hbefore, -⟩ := h
  intro heq
  rw [lowerText, lowerText, String.ofList_inj, hs, ht] at heq
  obtain ⟨front, back, hfirst, hlength⟩ := exists_lowerFrom_append [] before 'Σ' after
  obtain ⟨front', back', hsecond, hlength'⟩ := exists_lowerFrom_append [] before' 'σ' after'
  have hsmall : lowerBetween before'.reverse after' 'σ' = ['σ'] := by
    rw [lowerBetween_of_not_endsWord (by simp), lower_small_sigma]
  rw [hfirst, hsecond, List.append_nil, List.append_nil, lowerBetween_of_endsWord hends,
    hsmall] at heq
  have hrest := List.append_inj_right heq (by rw [hlength, hlength', hbefore])
  exact absurd (List.cons.inj hrest).1 (by decide)

/-- A capital sigma at the end of a word, against anything else at the same place of a text that
is alike but for case, makes the two texts twins. -/
theorem sigmaTwins_of_endsWord {s t : String} {before after before' after' left right : List Char}
    {d : Char} (hs : s.toList = before ++ 'Σ' :: after) (ht : t.toList = before' ++ d :: after')
    (hd : lower d = left ++ 'σ' :: right)
    (hbefore : before.flatMap lower = before'.flatMap lower ++ left)
    (hafter : after.flatMap lower = right ++ after'.flatMap lower) (hends : EndsWord before after)
    (hother : ¬ (d = 'Σ' ∧ EndsWord before' after')) : SigmaTwins s t := by
  have hsigma : lower d = ['σ'] := by
    rcases eq_sigma_of_mem_lower (hd ▸ List.mem_append_right _ List.mem_cons_self) with rfl | rfl
    · exact lower_sigma
    · exact lower_small_sigma
  obtain ⟨rfl, -, rfl⟩ := eq_nil_of_sigma (hsigma.symm.trans hd)
  rw [List.append_nil] at hbefore
  rw [List.nil_append] at hafter
  have hends' := hends.of_flatMap_lower_eq hbefore hafter
  rcases eq_sigma_of_mem_lower (hsigma ▸ List.mem_singleton_self 'σ') with rfl | rfl
  · exact absurd ⟨rfl, hends'⟩ hother
  · exact ⟨before, after, before', after', hs, ht, hends, hbefore, hafter⟩

/-- Texts that are alike character by character have the same lower case at each place, if they
are no twins. -/
theorem getElem?_lowerFrom_eq {s t : String} (h : s.toList.flatMap lower = t.toList.flatMap lower)
    (hst : ¬ SigmaTwins s t) (hts : ¬ SigmaTwins t s) {i : Nat}
    (hi : i < (s.toList.flatMap lower).length) :
    (lowerFrom [] s.toList)[i]? = (lowerFrom [] t.toList)[i]? := by
  obtain ⟨front, x, back, hlower, rfl⟩ : ∃ front x back,
      s.toList.flatMap lower = front ++ x :: back ∧ front.length = i :=
    ⟨_, _, _, (List.take_append_drop i _).symm.trans
      (congrArg _ (List.getElem_cons_drop hi).symm), List.length_take_of_le (Nat.le_of_lt hi)⟩
  obtain ⟨before, c, after, left, right, hs, hc, hfront, hback, hplace⟩ :=
    getElem?_lowerFrom hlower
  obtain ⟨before', d, after', left', right', ht, hd, hfront', hback', hplace'⟩ :=
    getElem?_lowerFrom (h.symm.trans hlower)
  rw [hplace, hplace']
  by_cases hends : c = 'Σ' ∧ EndsWord before after
  · obtain ⟨rfl, hends⟩ := hends
    obtain ⟨rfl, rfl, rfl⟩ := eq_nil_of_sigma (lower_sigma.symm.trans hc)
    rw [List.append_nil] at hfront
    rw [List.nil_append] at hback
    by_cases hends' : d = 'Σ' ∧ EndsWord before' after'
    · -- Both texts have a final sigma here.
      obtain ⟨rfl, hends'⟩ := hends'
      obtain ⟨rfl, -, -⟩ := eq_nil_of_sigma (lower_sigma.symm.trans hd)
      rw [lowerBetween_of_endsWord hends, lowerBetween_of_endsWord hends']
    · exact absurd (sigmaTwins_of_endsWord hs ht hd (hfront.symm.trans hfront')
        (hback.symm.trans hback') hends hends') hst
  · rw [lowerBetween_of_not_endsWord hends]
    by_cases hends' : d = 'Σ' ∧ EndsWord before' after'
    · obtain ⟨rfl, hends'⟩ := hends'
      obtain ⟨rfl, rfl, rfl⟩ := eq_nil_of_sigma (lower_sigma.symm.trans hd)
      rw [List.append_nil] at hfront'
      rw [List.nil_append] at hback'
      exact absurd (sigmaTwins_of_endsWord ht hs hc (hfront'.symm.trans hfront)
        (hback'.symm.trans hback) hends' hends) hts
    · -- Neither has one, so that both have the lower case of a character.
      rw [lowerBetween_of_not_endsWord hends', hc, hd]
      simp

/-- **Texts that are alike** character by character have the same lower case exactly if they are no
twins, in neither order. -/
theorem lowerText_eq_iff {s t : String} (h : lowerEach s = lowerEach t) :
    lowerText s = lowerText t ↔ ¬ SigmaTwins s t ∧ ¬ SigmaTwins t s := by
  constructor
  · intro heq
    exact ⟨fun htwins => htwins.lowerText_ne heq, fun htwins => htwins.lowerText_ne heq.symm⟩
  · rintro ⟨hst, hts⟩
    have halike := lowerEach_inj.mp h
    rw [lowerText, lowerText, String.ofList_inj]
    refine List.ext_getElem? fun i => ?_
    by_cases hi : i < (s.toList.flatMap lower).length
    · exact getElem?_lowerFrom_eq halike hst hts hi
    · rw [List.getElem?_eq_none, List.getElem?_eq_none]
      · rw [length_lowerFrom, ← halike]
        omega
      · rw [length_lowerFrom]
        omega

end Stencil.Text
