import Stencil.Proofs.Language.Legal
import Stencil.Proofs.Text.CasePairs

/-!
# Parts of a name

In TypeScript the parts of a name are joined without the separators between them, and all but the
first are capitalized. What a character leaves in the joined name depends on where it stands: it is
capitalized as the first of a part behind another one, and stays as it is anywhere else. The joined
name can thus be read off the name from left to right.

## Main definitions

* `TypeScript.Position`: where in a name a character stands
* `TypeScript.joinFrom position name`: what characters leave that stand behind others
* `TypeScript.kept name`: the identifier characters of the joined parts

## Main results

* `TypeScript.joinParts_piecesWhere`: parts are joined from left to right
* `TypeScript.kept_append`: what is kept of a name whose first characters leave nothing
* `TypeScript.exists_of_filter_joinFrom_eq_cons`: the character that leaves the first one that is kept
-/

namespace Stencil.TypeScript

open Naming Text

/-! ## Positions -/

/-- Where in a name a character stands: in front of its parts, inside a part, or between parts. -/
inductive Position where
  | front
  | inside
  | between
deriving DecidableEq

namespace Position

/-- Where the character behind this one stands. -/
def next (position : Position) (c : Char) : Position :=
  if isPartSeparator c then
    if position = front then front else between
  else inside

/-- What a character leaves in the joined name. -/
def leaves (position : Position) (c : Char) : List Char :=
  if isPartSeparator c then [] else if position = between then upper c else [c]

/-- Where the character behind a text stands. -/
def behind (position : Position) (passed : List Char) : Position :=
  passed.foldl next position

variable {position : Position} {c : Char}

theorem next_of_not_separator (h : isPartSeparator c = false) : position.next c = inside := by
  simp [next, h]

theorem next_front_of_separator (h : isPartSeparator c = true) : front.next c = front := by
  simp [next, h]

theorem next_of_separator (h : isPartSeparator c = true) (hposition : position ≠ front) :
    position.next c = between := by
  simp [next, h, hposition]

theorem leaves_of_separator (h : isPartSeparator c = true) : position.leaves c = [] := by
  simp [leaves, h]

theorem leaves_of_ne_between (h : isPartSeparator c = false) (hposition : position ≠ between) :
    position.leaves c = [c] := by
  simp [leaves, h, hposition]

theorem leaves_between (h : isPartSeparator c = false) : between.leaves c = upper c := by
  simp [leaves, h]

end Position

theorem isPartSeparator_of_isIdentifierChar {c : Char} (h : isIdentifierChar c = true) :
    isPartSeparator c = false := by
  rw [← Bool.not_eq_true]
  intro hseparator
  have hcases : (c = '-' ∨ c = '.') ∨ c = ' ' := by
    simpa [isPartSeparator] using hseparator
  rcases hcases with (rfl | rfl) | rfl <;> exact absurd h (by decide)

/-- What characters leave of which the first stands at a position. -/
def joinFrom (position : Position) : List Char → List Char
  | [] => []
  | c :: rest => position.leaves c ++ joinFrom (position.next c) rest

theorem joinFrom_append (position : Position) (passed rest : List Char) :
    joinFrom position (passed ++ rest) =
      joinFrom position passed ++ joinFrom (position.behind passed) rest := by
  induction passed generalizing position with
  | nil => rfl
  | cons c passed ih =>
    rw [List.cons_append, joinFrom, ih, joinFrom, List.append_assoc]
    rfl

/-- Without separators nothing changes but behind one. -/
theorem joinFrom_eq_self {position : Position} (hposition : position ≠ .between) {name : List Char}
    (hname : ∀ c ∈ name, isPartSeparator c = false) : joinFrom position name = name := by
  induction name generalizing position with
  | nil => rfl
  | cons c rest ih =>
    obtain ⟨hc, hrest⟩ := List.forall_mem_cons.mp hname
    rw [joinFrom, Position.leaves_of_ne_between hc hposition, Position.next_of_not_separator hc,
      ih (by decide) hrest, List.singleton_append]

/-! ## Joining from left to right -/

/-- An empty piece leaves nothing when it is capitalized. -/
theorem flatMap_capitalize_filter (pieces : List (List Char)) :
    (pieces.filter fun piece => !piece.isEmpty).flatMap capitalize = pieces.flatMap capitalize := by
  induction pieces with
  | nil => rfl
  | cons piece pieces ih =>
    cases piece with
    | nil => simpa [capitalize] using ih
    | cons c rest => simpa using ih

/-- The pieces of a name, by where its first character stands: the first piece goes on with a part,
is a part behind others, or is the first part of all. -/
theorem exists_pieces_joinFrom (name : List Char) :
    ∃ piece pieces, splitWhere isPartSeparator name = piece :: pieces ∧
      joinFrom .inside name = piece ++ pieces.flatMap capitalize ∧
      joinFrom .between name = (piece :: pieces).flatMap capitalize ∧
      joinFrom .front name = joinParts ((piece :: pieces).filter fun piece => !piece.isEmpty) := by
  -- All three positions at once, as each one is followed by another.
  induction name with
  | nil => exact ⟨[], [], rfl, rfl, rfl, rfl⟩
  | cons c rest ih =>
    obtain ⟨piece, pieces, hsplit, hinside, hbetween, hfront⟩ := ih
    cases hc : isPartSeparator c with
    | true =>
      have hcut : splitWhere isPartSeparator (c :: rest) = [] :: piece :: pieces := by
        rw [splitWhere, if_pos hc, hsplit]
      refine ⟨[], piece :: pieces, hcut, ?_, ?_, ?_⟩
      · rw [joinFrom, Position.leaves_of_separator hc, Position.next_of_separator hc (by decide),
          hbetween]
      · rw [joinFrom, Position.leaves_of_separator hc, Position.next_of_separator hc (by decide),
          hbetween]
        rfl
      · rw [joinFrom, Position.leaves_of_separator hc, Position.next_front_of_separator hc, hfront]
        rfl
    | false =>
      have hgrown : splitWhere isPartSeparator (c :: rest) = (c :: piece) :: pieces := by
        rw [splitWhere, if_neg (by rw [hc]; decide), hsplit]
      refine ⟨c :: piece, pieces, hgrown, ?_, ?_, ?_⟩
      · rw [joinFrom, Position.leaves_of_ne_between hc (by decide),
          Position.next_of_not_separator hc, hinside]
        rfl
      · rw [joinFrom, Position.leaves_between hc, Position.next_of_not_separator hc, hinside,
          List.flatMap_cons, capitalize, List.append_assoc]
      · rw [joinFrom, Position.leaves_of_ne_between hc (by decide),
          Position.next_of_not_separator hc, hinside, List.filter_cons_of_pos (by rfl), joinParts,
          flatMap_capitalize_filter]
        rfl

/-- **Parts are joined** from left to right. -/
theorem joinParts_piecesWhere (name : List Char) :
    joinParts (piecesWhere isPartSeparator name) = joinFrom .front name := by
  obtain ⟨piece, pieces, hsplit, -, -, hfront⟩ := exists_pieces_joinFrom name
  rw [piecesWhere, hsplit, hfront]

/-! ## What is kept -/

/-- The identifier characters of the joined parts of a name. -/
def kept (name : List Char) : List Char :=
  (joinParts (piecesWhere isPartSeparator name)).filter isIdentifierChar

theorem kept_eq (name : List Char) :
    kept name = (joinFrom .front name).filter isIdentifierChar := by
  rw [kept, joinParts_piecesWhere]

/-- An identifier is what is kept of a name, with an underscore in front where it needs one. -/
theorem sanitize_of_kept_ne_nil {name : List Char} (h : kept name ≠ []) :
    sanitize name = escapeReserved (guardDigit (kept name)) := by
  unfold sanitize
  split
  · rename_i hnone
    exact absurd hnone h
  · rfl

theorem sanitize_of_kept_eq_nil {name : List Char} (h : kept name = []) :
    sanitize name = "_empty".toList := by
  unfold sanitize
  split
  · rfl
  · rename_i hsome
    exact absurd h hsome

/-- Identifier characters are kept as they are. -/
theorem kept_eq_self {name : List Char} (h : ∀ c ∈ name, isIdentifierChar c = true) :
    kept name = name := by
  have hseparator : ∀ c ∈ name, isPartSeparator c = false := fun c hc =>
    isPartSeparator_of_isIdentifierChar (h c hc)
  rw [kept_eq, joinFrom_eq_self (by decide) hseparator, List.filter_eq_self.mpr h]

/-- What is kept of a name whose first characters leave nothing is what the others leave. -/
theorem kept_append {passed : List Char} (h : kept passed = []) (rest : List Char) :
    kept (passed ++ rest) =
      (joinFrom (Position.front.behind passed) rest).filter isIdentifierChar := by
  rw [kept_eq, joinFrom_append, List.filter_append, ← kept_eq, h, List.nil_append]

/-- The first character that is kept is left by a character of the name that stands behind others
which leave nothing. -/
theorem exists_of_filter_joinFrom_eq_cons {position : Position} {name : List Char} {first : Char}
    {others : List Char} (h : (joinFrom position name).filter isIdentifierChar = first :: others) :
    ∃ passed c rest, name = passed ++ c :: rest ∧
      (joinFrom position passed).filter isIdentifierChar = [] ∧
      first ∈ (position.behind passed).leaves c := by
  induction name generalizing position with
  | nil => cases h
  | cons c rest ih =>
    rw [joinFrom, List.filter_append] at h
    cases hleft : (position.leaves c).filter isIdentifierChar with
    | nil =>
      rw [hleft, List.nil_append] at h
      obtain ⟨passed, d, behind, rfl, hpassed, hfirst⟩ := ih h
      refine ⟨c :: passed, d, behind, rfl, ?_, hfirst⟩
      rw [joinFrom, List.filter_append, hleft, hpassed, List.nil_append]
    | cons d others =>
      rw [hleft] at h
      refine ⟨[], c, rest, rfl, rfl, ?_⟩
      rw [← (List.cons.inj h).1]
      exact (List.mem_filter.mp (hleft ▸ List.mem_cons_self)).1

end Stencil.TypeScript
