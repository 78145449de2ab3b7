import Stencil.Json.Token

/-!
# The text between two places

Each character moves the place in a text on, so that the places of a text come in the order of its
characters. A token is written with the characters from the place where it starts up to the place
where it stops.

## Main definitions

* `Place.Before`: the order of places
* `Place.afterAll place cs`: the place behind some characters
* `Token.raw text t`: the characters that a token is written with

## Main results

* `between_append`: the characters between the places around them
-/

namespace Stencil.Json

namespace Place

/-- One place is in front of another. -/
def Before (p q : Place) : Prop := p.line < q.line ∨ p.line = q.line ∧ p.column < q.column

instance (p q : Place) : Decidable (p.Before q) := inferInstanceAs (Decidable (_ ∨ _))

/-- The place behind some characters. -/
def afterAll (place : Place) (cs : List Char) : Place := cs.foldl after place

@[simp] theorem afterAll_nil (place : Place) : place.afterAll [] = place := rfl

@[simp] theorem afterAll_cons (place : Place) (c : Char) (cs : List Char) :
    place.afterAll (c :: cs) = (place.after c).afterAll cs := rfl

theorem afterAll_append (place : Place) (cs ds : List Char) :
    place.afterAll (cs ++ ds) = (place.afterAll cs).afterAll ds := List.foldl_append

theorem not_before_self (p : Place) : ¬ p.Before p := by
  unfold Before
  omega

theorem Before.trans {p q r : Place} (hpq : p.Before q) (hqr : q.Before r) : p.Before r := by
  unfold Before at *
  omega

/-- A character moves the place on. -/
theorem before_after (p : Place) (c : Char) : p.Before (p.after c) := by
  have hsize := c.utf8Size_pos
  unfold Before after
  split
  · exact Or.inl (Nat.lt_succ_self p.line)
  · exact Or.inr ⟨rfl, Nat.lt_add_of_pos_right hsize⟩

theorem before_afterAll_cons (p : Place) (c : Char) (cs : List Char) :
    p.Before (p.afterAll (c :: cs)) := by
  induction cs generalizing p c with
  | nil => exact before_after p c
  | cons d cs ih => exact (before_after p c).trans (ih (p.after c) d)

theorem not_afterAll_before (p : Place) (cs : List Char) : ¬ (p.afterAll cs).Before p := by
  cases cs with
  | nil => exact not_before_self p
  | cons c cs => exact fun h => not_before_self p ((before_afterAll_cons p c cs).trans h)

/-- A part in front of a text is known by the place behind it. -/
theorem eq_of_afterAll_eq {place : Place} {front front' cs : List Char} (hfront : front <+: cs)
    (hfront' : front' <+: cs) (h : place.afterAll front = place.afterAll front') :
    front = front' := by
  have hnil : ∀ {start : Place} {more : List Char}, start = start.afterAll more → more = [] := by
    intro start more hsame
    cases more with
    | nil => rfl
    | cons c more =>
      have hbefore := before_afterAll_cons start c more
      rw [← hsame] at hbefore
      exact absurd hbefore (not_before_self start)
  rcases List.prefix_or_prefix_of_prefix hfront hfront' with ⟨more, rfl⟩ | ⟨more, rfl⟩
  · rw [afterAll_append] at h
    rw [hnil h, List.append_nil]
  · rw [afterAll_append] at h
    rw [hnil h.symm, List.append_nil]

end Place

/-! ## Characters between places -/

open Place

/-- The characters from one place up to another, in a text that starts at a place. -/
def between (start stop : Place) (place : Place) : List Char → List Char
  | [] => []
  | c :: rest =>
    if ¬ place.Before start ∧ place.Before stop then
      c :: between start stop (place.after c) rest
    else between start stop (place.after c) rest

/-- The characters that a token is written with. -/
def Token.raw (text : String) (t : Token) : List Char :=
  between t.start t.stop {} text.toList

variable {start stop : Place}

/-- Behind the second place there is nothing. -/
theorem between_of_not_before_stop {place : Place} (h : ¬ place.Before stop) (cs : List Char) :
    between start stop place cs = [] := by
  induction cs generalizing place with
  | nil => rfl
  | cons c cs ih =>
    rw [between, if_neg (not_and_of_not_right _ h)]
    exact ih fun hafter => h ((before_after place c).trans hafter)

/-- Between places in the wrong order there is nothing. -/
theorem between_of_not_before (h : ¬ start.Before stop) (place : Place) (cs : List Char) :
    between start stop place cs = [] := by
  induction cs generalizing place with
  | nil => rfl
  | cons c cs ih =>
    rw [between, if_neg]
    · exact ih (place.after c)
    · rintro ⟨hstart, hstop⟩
      unfold Before at *
      omega

/-- In front of the first place nothing counts. -/
theorem between_append_left (place : Place) (done rest : List Char) :
    between (place.afterAll done) stop place (done ++ rest) =
      between (place.afterAll done) stop (place.afterAll done) rest := by
  induction done generalizing place with
  | nil => rfl
  | cons c done ih =>
    rw [List.cons_append, between, if_neg]
    · exact ih (place.after c)
    · exact fun h => h.1 (before_afterAll_cons place c done)

theorem between_append_right {place : Place} (hstart : ¬ place.Before start)
    (raw rest : List Char) : between start (place.afterAll raw) place (raw ++ rest) = raw := by
  induction raw generalizing place with
  | nil => exact between_of_not_before_stop (not_before_self place) rest
  | cons c raw ih =>
    rw [List.cons_append, between, if_pos ⟨hstart, before_afterAll_cons place c raw⟩]
    refine congrArg _ (ih fun hafter => hstart ?_)
    exact (before_after place c).trans hafter

/-- **The characters between two places** are those that lead from the one to the other. -/
theorem between_append (place : Place) (done raw rest : List Char) :
    between (place.afterAll done) (place.afterAll (done ++ raw)) place (done ++ raw ++ rest) =
      raw := by
  rw [List.append_assoc, between_append_left, afterAll_append]
  exact between_append_right (not_before_self _) raw rest

/-- Tokens are written without the blanks between them, and texts with their quotes and escapes. -/
example :
    (Token.scan "[\"a\\n\", -1.5]").map (fun t => String.ofList (t.raw "[\"a\\n\", -1.5]")) =
      ["[", "\"a\\n\"", ",", "-1.5", "]", ""] := by
  decide +kernel

end Stencil.Json
