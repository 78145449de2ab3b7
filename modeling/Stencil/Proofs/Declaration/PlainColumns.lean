import Stencil.Proofs.Declaration.PlainReferences
import Stencil.Proofs.Json.Place
import Stencil.Proofs.Json.StepRecast

/-!
# Columns in a text with plain references

A pass over a text moves what stands behind a `$ref` one column to the left, up to the end of the
line. So a place in a text is found again on the same line, as many columns to the left as there are
`$ref`s in front of it on that line.

## Main definitions

* `referencesBefore target cs`: how many `$ref`s stand in front of a place on its line
* `plainPlace cs place`: the place in the text with plain references
* `Passed cs place place' rest`: a pass over the text `cs` with `rest` in front of it

## Main results

* `Passed.plainPlace_eq`: the place of the pass, and the places up to three bytes behind it
-/

namespace Stencil

open Json

/-- How many `$ref`s end on the line of `target` and not behind it, in a text that starts at a
place. -/
def referencesFrom (target place : Place) : List Char → Nat
  | [] => 0
  | c :: rest =>
    (if marked 1 <+: c :: rest ∧ place.line = target.line ∧ place.column + 4 ≤ target.column then 1
      else 0) + referencesFrom target (place.after c) rest

/-- How many `$ref`s of a text stand in front of a place on its line. -/
def referencesBefore (target : Place) (cs : List Char) : Nat := referencesFrom target {} cs

/-- The place in the text with plain references. -/
def plainPlace (cs : List Char) (place : Place) : Place :=
  ⟨place.line, place.column - referencesBefore place cs⟩

/-- A pass over a text, with `rest` in front of it: on the line of the place that it has come to, it
has taken as many dollar signs away as there are `$ref`s in front. -/
structure Passed (cs : List Char) (place place' : Place) (rest : List Char) : Prop where
  line_eq : place'.line = place.line
  sameLine : ∀ target : Place, target.line = place.line → place.column ≤ target.column →
    place'.column + referencesBefore target cs =
      place.column + referencesFrom target place rest
  laterLine : ∀ target : Place, place.line < target.line →
    referencesBefore target cs = referencesFrom target place rest

variable {cs rest : List Char} {place place' target : Place}

/-- No `$ref` that starts at a place or behind it ends in front of what is less than four columns
behind the place. -/
theorem referencesFrom_eq_zero
    (h : target.line < place.line ∨
      target.line = place.line ∧ target.column < place.column + 4) (cs : List Char) :
    referencesFrom target place cs = 0 := by
  induction cs generalizing place with
  | nil => rfl
  | cons c rest ih =>
    have hnot : ¬ (marked 1 <+: c :: rest ∧ place.line = target.line ∧
        place.column + 4 ≤ target.column) := by omega
    rw [referencesFrom, if_neg hnot, Nat.zero_add]
    apply ih
    unfold Place.after
    split
    · exact Or.inl (by dsimp only; omega)
    · dsimp only
      omega

namespace Passed

theorem start (cs : List Char) : Passed cs {} {} cs where
  line_eq := rfl
  sameLine _ _ _ := rfl
  laterLine _ _ := rfl

/-- The place of the pass, and what is less than four bytes behind it on the same line. -/
theorem plainPlace_eq (h : Passed cs place place' rest) {bytes : Nat} (hbytes : bytes < 4) :
    plainPlace cs ⟨place.line, place.column + bytes⟩ = ⟨place'.line, place'.column + bytes⟩ := by
  have hcount := h.sameLine ⟨place.line, place.column + bytes⟩ rfl (Nat.le_add_right _ _)
  have hzero : referencesFrom ⟨place.line, place.column + bytes⟩ place rest = 0 := by
    apply referencesFrom_eq_zero
    exact Or.inr ⟨rfl, Nat.add_lt_add_left hbytes place.column⟩
  rw [plainPlace, h.line_eq, Place.mk.injEq]
  refine ⟨rfl, ?_⟩
  dsimp only
  omega

theorem here (h : Passed cs place place' rest) : plainPlace cs place = place' :=
  h.plainPlace_eq (by decide : 0 < 4)

theorem next (h : Passed cs place place' rest) :
    plainPlace cs place.next = (plainPlace cs place).next := by
  rw [h.here]
  exact h.plainPlace_eq (by decide : 1 < 4)

/-- One more character, with no `$ref` in front of the pass. -/
theorem cons {c : Char} (h : Passed cs place place' (c :: rest)) (hne : ¬ marked 1 <+: c :: rest) :
    Passed cs (place.after c) (place'.after c) rest := by
  have hcount : ∀ target, referencesFrom target place (c :: rest) =
      referencesFrom target (place.after c) rest := by
    intro target
    rw [referencesFrom, if_neg fun hstarts => hne hstarts.1, Nat.zero_add]
  have hline := h.line_eq
  unfold Place.after at hcount ⊢
  by_cases hc : c = '\n'
  · simp only [if_pos hc] at hcount ⊢
    refine ⟨congrArg (· + 1) hline, fun target hsame _ => ?_, fun target hlater => ?_⟩
    · rw [h.laterLine target (by dsimp only at hsame; omega), hcount target]
    · rw [h.laterLine target (by dsimp only at hlater; omega), hcount target]
  · simp only [if_neg hc] at hcount ⊢
    refine ⟨hline, fun target hsame hle => ?_, fun target hlater => ?_⟩
    · have hbefore := h.sameLine target hsame (by dsimp only at hle; omega)
      rw [hcount target] at hbefore
      dsimp only
      omega
    · rw [h.laterLine target hlater, hcount target]

/-- A whole `$ref`. -/
theorem reference (h : Passed cs place place' (marked 1 ++ rest)) :
    Passed cs (place.afterAll (marked 1)) (place'.afterAll (marked 0)) rest := by
  have hplace : place.afterAll (marked 1) = ⟨place.line, place.column + 4⟩ := rfl
  have hplace' : place'.afterAll (marked 0) = ⟨place'.line, place'.column + 3⟩ := rfl
  have hcount : ∀ target, referencesFrom target place (marked 1 ++ rest) =
      (if place.line = target.line ∧ place.column + 4 ≤ target.column then 1 else 0) +
        referencesFrom target ⟨place.line, place.column + 4⟩ rest := by
    intro target
    have hskip : ∀ (c : Char) (more : List Char) (place : Place), c ≠ '$' →
        referencesFrom target place (c :: more) = referencesFrom target (place.after c) more := by
      intro c more place hc
      rw [referencesFrom, if_neg, Nat.zero_add]
      rintro ⟨hstarts, -⟩
      exact hc (List.cons_prefix_cons.mp hstarts).1.symm
    have hstarts : marked 1 <+: '$' :: 'r' :: 'e' :: 'f' :: rest := List.prefix_append (marked 1) rest
    change referencesFrom target place ('$' :: 'r' :: 'e' :: 'f' :: rest) = _
    rw [referencesFrom, hskip _ _ _ (by decide), hskip _ _ _ (by decide), hskip _ _ _ (by decide)]
    simp only [hstarts, true_and]
    rfl
  rw [hplace, hplace']
  refine ⟨h.line_eq, fun target hsame hle => ?_, fun target hlater => ?_⟩
  · dsimp only at hsame hle ⊢
    have hbefore := h.sameLine target hsame (by omega)
    rw [hcount target, if_pos ⟨hsame.symm, hle⟩] at hbefore
    omega
  · dsimp only at hlater
    rw [h.laterLine target hlater, hcount target, if_neg (by omega), Nat.zero_add]

/-- The places at a character go along with the pass. -/
theorem carries {c : Char} (h : Passed cs place place' (c :: rest))
    (hne : ¬ marked 1 <+: c :: rest) : Place.Carries (plainPlace cs) place place' c where
  here := h.here
  after := (h.cons hne).here
  within bytes := by
    have hafter := (h.cons hne).here
    have hsize : c.utf8Size ≤ 4 := c.utf8Size_le_four
    unfold Place.within
    unfold Place.after at hafter ⊢
    split_ifs at hafter ⊢
    · exact hafter
    · -- All bytes of the character, or fewer than four.
      rcases Nat.lt_or_ge (min bytes c.utf8Size) c.utf8Size with hlt | hge
      · exact h.plainPlace_eq (by omega)
      · have hall : min bytes c.utf8Size = c.utf8Size := by omega
        rw [hall]
        exact hafter

end Passed

end Stencil
