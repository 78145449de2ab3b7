import Mathlib.Data.List.Basic
import Stencil.Text.Split

/-!
# Cutting texts

A text is cut at every separator into pieces without separators, at its first mark, or at its last
one. Between two separators, in front of the first mark and behind the last one there is none of
them.

## Main results

* `Text.splitWhere_append_cons`: a separator between two texts
* `Text.flatten_piecesWhere`: nothing but the separators is lost
* `Text.cut?_append_cons`: a text is cut at its first mark
* `Text.cutLast?_eq_some_iff`: a text is cut at its last mark
* `Text.replaced_singleton`: a character replaced everywhere in a text
-/

namespace Stencil.Text

variable {isSeparator : Char → Bool}

/-! ## At every separator -/

theorem splitWhere_append_cons {c : Char} (hc : isSeparator c = true) (cs ds : List Char) :
    splitWhere isSeparator (cs ++ c :: ds) =
      splitWhere isSeparator cs ++ splitWhere isSeparator ds := by
  induction cs with
  | nil => simp [splitWhere, hc]
  | cons d cs ih =>
    simp only [List.cons_append, splitWhere, ih]
    cases hd : isSeparator d with
    | true => rfl
    | false =>
      cases hsplit : splitWhere isSeparator cs with
      | nil => exact absurd hsplit (splitWhere_ne_nil _ _)
      | cons piece pieces => rfl

theorem splitWhere_of_forall {cs : List Char} (h : ∀ c ∈ cs, isSeparator c = false) :
    splitWhere isSeparator cs = [cs] := by
  induction cs with
  | nil => rfl
  | cons c cs ih =>
    have hrest := ih fun d hd => h d (List.mem_cons_of_mem c hd)
    simp [splitWhere, h c List.mem_cons_self, hrest]

theorem not_separator_of_mem_splitWhere {cs piece : List Char}
    (h : piece ∈ splitWhere isSeparator cs) : ∀ c ∈ piece, isSeparator c = false := by
  induction cs generalizing piece with
  | nil =>
    obtain rfl : piece = [] := by simpa [splitWhere] using h
    simp
  | cons d cs ih =>
    simp only [splitWhere] at h
    cases hd : isSeparator d with
    | true =>
      simp only [hd, if_true, List.mem_cons] at h
      rcases h with rfl | h
      · simp
      · exact ih h
    | false =>
      cases hsplit : splitWhere isSeparator cs with
      | nil => exact absurd hsplit (splitWhere_ne_nil _ _)
      | cons first others =>
        rw [hsplit] at ih
        simp only [hd, Bool.false_eq_true, if_false, hsplit, List.mem_cons] at h
        rcases h with rfl | h
        · exact List.forall_mem_cons.mpr ⟨hd, ih List.mem_cons_self⟩
        · exact ih (List.mem_cons_of_mem first h)

/-- The pieces hold all that is no separator, in its order. -/
theorem flatten_splitWhere (cs : List Char) :
    (splitWhere isSeparator cs).flatten = cs.filter fun c => !isSeparator c := by
  induction cs with
  | nil => rfl
  | cons c cs ih =>
    cases hc : isSeparator c with
    | true => simp [splitWhere, hc, ih]
    | false =>
      cases hsplit : splitWhere isSeparator cs with
      | nil => exact absurd hsplit (splitWhere_ne_nil _ _)
      | cons piece pieces =>
        rw [hsplit] at ih
        simp [splitWhere, hc, hsplit, ← ih]

/-! ## Pieces that hold something -/

theorem piecesWhere_of_forall {cs : List Char} (hsome : cs ≠ [])
    (h : ∀ c ∈ cs, isSeparator c = false) : piecesWhere isSeparator cs = [cs] := by
  rw [piecesWhere, splitWhere_of_forall h]
  simp [hsome]

theorem not_separator_of_mem_piecesWhere {cs piece : List Char}
    (h : piece ∈ piecesWhere isSeparator cs) : ∀ c ∈ piece, isSeparator c = false :=
  not_separator_of_mem_splitWhere (List.mem_filter.mp h).1

theorem ne_nil_of_mem_piecesWhere {cs piece : List Char} (h : piece ∈ piecesWhere isSeparator cs) :
    piece ≠ [] := by
  have hsome := (List.mem_filter.mp h).2
  simpa using hsome

/-- Nothing but the separators is lost where a text is cut. -/
theorem flatten_piecesWhere (cs : List Char) :
    (piecesWhere isSeparator cs).flatten = cs.filter fun c => !isSeparator c := by
  rw [piecesWhere, List.flatten_filter_not_isEmpty, flatten_splitWhere]

/-! ## At the first mark -/

theorem cut?_singleton_self (c : Char) (rest : List Char) :
    cut? [c] (c :: rest) = some ([], rest) := by
  simp [cut?]

theorem cut?_singleton_of_ne {c d : Char} (h : d ≠ c) (rest : List Char) :
    cut? [c] (d :: rest) = (cut? [c] rest).map fun (before, after) => (d :: before, after) := by
  simp [cut?, h.symm]

/-- **A text is cut** at its first mark. -/
theorem cut?_append_cons {mark : Char} {before : List Char} (h : mark ∉ before)
    (after : List Char) : cut? [mark] (before ++ mark :: after) = some (before, after) := by
  induction before with
  | nil => exact cut?_singleton_self mark after
  | cons c before ih =>
    have hc : c ≠ mark := fun hc => h (hc ▸ List.mem_cons_self)
    have hbefore : mark ∉ before := fun hmem => h (List.mem_cons_of_mem c hmem)
    rw [List.cons_append, cut?_singleton_of_ne hc, ih hbefore]
    rfl

/-- **A character replaced** everywhere in a text: each place is looked at once, and what is put
there is not looked at again. -/
theorem replaced_singleton (c : Char) (new cs : List Char) :
    replaced [c] new cs = cs.flatMap fun d => if d = c then new else [d] := by
  have hbound : ∀ fuel, cs.length ≤ fuel →
      replacedUpTo [c] new fuel cs = cs.flatMap fun d => if d = c then new else [d] := by
    induction cs with
    | nil => rintro (_ | fuel) - <;> rfl
    | cons d rest ih =>
      intro fuel hfuel
      obtain ⟨fuel, rfl⟩ : ∃ k, fuel = k + 1 := ⟨fuel - 1, by simp at hfuel; omega⟩
      have hrest : rest.length ≤ fuel := Nat.le_of_succ_le_succ hfuel
      rw [List.flatMap_cons]
      by_cases hd : d = c
      · subst hd
        rw [replacedUpTo, cut?_singleton_self, if_pos rfl, ← ih fuel hrest]
        rfl
      · -- A character that stays does not count against the bound.
        have hstays : replacedUpTo [c] new (fuel + 1) (d :: rest) =
            d :: replacedUpTo [c] new (fuel + 1) rest := by
          rw [replacedUpTo, replacedUpTo, cut?_singleton_of_ne hd]
          cases cut? [c] rest <;> rfl
        rw [hstays, if_neg hd, ih (fuel + 1) (Nat.le_succ_of_le hrest), List.singleton_append]
  exact hbound cs.length (Nat.le_refl _)

/-! ## At the last mark -/

theorem cutLast?_eq_none_iff {mark : Char} {cs : List Char} :
    cutLast? mark cs = none ↔ mark ∉ cs := by
  induction cs with
  | nil => simp [cutLast?]
  | cons c rest ih =>
    rw [List.mem_cons, not_or, ← ih, cutLast?]
    cases cutLast? mark rest with
    | some parts => simp
    | none => simp [eq_comm]

theorem cutLast?_append_cons {mark : Char} {after : List Char} (h : mark ∉ after)
    (before : List Char) : cutLast? mark (before ++ mark :: after) = some (before, after) := by
  induction before with
  | nil =>
    rw [List.nil_append, cutLast?, cutLast?_eq_none_iff.mpr h]
    exact if_pos rfl
  | cons c before ih => rw [List.cons_append, cutLast?, ih]

/-- **A text is cut** at its last mark. -/
theorem cutLast?_eq_some_iff {mark : Char} {cs before after : List Char} :
    cutLast? mark cs = some (before, after) ↔ cs = before ++ mark :: after ∧ mark ∉ after := by
  constructor
  · intro h
    have hmem : mark ∈ cs := by
      by_contra hnot
      rw [cutLast?_eq_none_iff.mpr hnot] at h
      cases h
    -- The last mark is the first one from behind.
    obtain ⟨last, front, hreverse, hlast⟩ := List.eq_append_cons_of_mem (List.mem_reverse.mpr hmem)
    have hcs : cs = front.reverse ++ mark :: last.reverse := by
      simpa using congrArg List.reverse hreverse
    have hnot : mark ∉ last.reverse := by simpa using hlast
    rw [hcs, cutLast?_append_cons hnot] at h
    obtain ⟨rfl, rfl⟩ := Prod.mk.inj (Option.some.inj h)
    exact ⟨hcs, hnot⟩
  · rintro ⟨rfl, h⟩
    exact cutLast?_append_cons h before

end Stencil.Text
