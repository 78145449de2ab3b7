import Stencil.Proofs.Json.Recast
import Stencil.Proofs.Json.Scan

/-!
# Steps at other places

A character leads to the same when what was read of its token is kept at other places and with other
characters of a text: the tokens that are put out are recast in the same way, and so is what is read
of the next one.

## Main definitions

* `Progress.recast φ r`: with `φ` applied to where the token starts and `r` to the characters of a
  text
* `Place.Carries φ place place' c`: `φ` takes the places at a character to those at another place
* `Progress.Glances φ`, `Step.Glances φ`: where faults are found goes along with where tokens start

## Main results

* `Progress.step_recast`: one character
* `Progress.finish_recast`: the end of the text
* `Progress.eq_between_or_length_le`: what is read of a text grows until the text ends
* `Progress.step_glances`: where faults are found at the tokens that are put out
-/

namespace Stencil.Json

variable (φ : Place → Place) (r : List Char → List Char)

/-- The text whose characters, the last one first, are changed. -/
def recastText (s : String) : String := String.ofList (r s.toList.reverse).reverse

/-- What is read of a token, with its start at another place and with other characters of a text. -/
def Progress.recast : Progress → Progress
  | .between => .between
  | .word start value rest => .word (φ start) (value.recast (recastText r)) rest
  | .numeral start part read => .numeral (φ start) part read
  | .text start read => .text (φ start) (r read)
  | .escape start read => .escape (φ start) (r read)
  | .hex start read high missing value => .hex (φ start) (r read) high missing value
  | .pair start read high => .pair (φ start) (r read) high
  | .pairEscape start read high => .pairEscape (φ start) (r read) high

/-- The characters that are read of a text, the last one first. -/
def Progress.read : Progress → List Char
  | .between | .word _ _ _ | .numeral _ _ _ => []
  | .text _ read | .escape _ read | .hex _ read _ _ _ | .pair _ read _ | .pairEscape _ read _ => read

/-- The same step with tokens and what is read of the next one recast. -/
def Step.recast : Step → Step
  | .more tokens progress =>
    .more (tokens.map (Token.recast φ (recastText r))) (progress.recast φ r)
  | .stop tokens => .stop (tokens.map (Token.recast φ (recastText r)))

/-- The places in front of a character, inside it and behind it become those at another place. -/
structure Place.Carries (place place' : Place) (c : Char) : Prop where
  here : φ place = place'
  after : φ (place.after c) = place'.after c
  within : ∀ bytes, φ (place.within c bytes) = place'.within c bytes

namespace Progress

variable {φ r} {place place' : Place} {c : Char}

section SameCharacter

variable (h : Place.Carries φ place place' c)

include h

theorem begin_recast (hr : r [] = []) : begin place' c = (begin place c).recast φ r := by
  obtain ⟨rfl, hafter, -⟩ := h
  unfold begin
  dsimp only
  split_ifs
  · rfl
  · rfl
  · rfl
  · rw [← hafter]
    split <;> simp [Step.recast, Token.recast, Lexeme.recast, Scalar.recast, recast, hr]

theorem endNumeral_recast (hr : r [] = []) (start : Place) (read : Numeral) :
    endNumeral (φ start) read place' c = (endNumeral start read place c).recast φ r := by
  have hbegin := begin_recast h hr
  have hhere := h.here
  unfold endNumeral
  rw [hbegin, ← hhere]
  cases read.value? with
  | none => rfl
  | some value => cases begin place c <;> rfl

theorem exponentDigit_recast (start : Place) (negative : Bool) (read : Numeral) :
    exponentDigit (φ start) negative read place' c =
      (exponentDigit start negative read place c).recast φ r := by
  unfold exponentDigit
  dsimp only
  rw [← h.after]
  split_ifs <;> rfl

theorem stepNumeral_recast (hr : r [] = []) (start : Place) (part : NumeralPart) (read : Numeral) :
    stepNumeral (φ start) part read place' c =
      (stepNumeral start part read place c).recast φ r := by
  have hend := endNumeral_recast h hr start read
  have hdigit := fun negative => exponentDigit_recast (r := r) h start negative read
  have hwithin := h.within 1
  cases part <;>
    simp only [stepNumeral, ← hwithin, hend, hdigit] <;>
    split_ifs <;> rfl

omit h in
theorem endHex_recast {read : List Char} (hread : ∀ d, r (d :: read) = d :: r read)
    (start : Place) (high value : Option Nat) (place : Place) :
    endHex (φ start) (r read) high value (φ place) =
      (endHex start read high value place).recast φ r := by
  unfold endHex
  dsimp only
  split
  · rfl
  · split_ifs
    · rfl
    · rfl
    · simp [Step.recast, recast, hread]
  · split_ifs
    · simp [Step.recast, recast, hread]
    · rfl

/-- **One character** leads to the same at another place and with other characters of a text. -/
theorem step_recast {progress : Progress} (hr : r [] = [])
    (hread : ∀ d, r (d :: progress.read) = d :: r progress.read) :
    step (progress.recast φ r) place' c = (step progress place c).recast φ r := by
  have hwithin := h.within
  have hafter := h.after
  cases progress with
  | between => exact begin_recast h hr
  | word start value rest =>
    cases rest with
    | nil => exact begin_recast h hr
    | cons expected rest =>
      simp only [recast, step, ← hwithin, ← hafter]
      split_ifs <;> rfl
  | numeral start part read => exact stepNumeral_recast h hr start part read
  | text start read =>
    rw [Progress.read] at hread
    -- The literal ends, an escape begins, or the character is a part of it.
    simp only [recast, step, ← hafter]
    split_ifs
    · simp [Step.recast, Token.recast, Lexeme.recast, Scalar.recast, recastText, recast]
    · rfl
    · rfl
    · simp [Step.recast, recast, hread]
  | escape start read =>
    rw [Progress.read] at hread
    simp only [recast, step, ← hwithin]
    split_ifs
    · rfl
    · cases escapedChar? c with
      | some escaped => simp [Step.recast, recast, hread]
      | none => rfl
  | hex start read high missing value =>
    rw [Progress.read] at hread
    simp only [recast, step, ← hwithin]
    split_ifs
    · rfl
    · exact endHex_recast hread start high _ _
  | pair start read high | pairEscape start read high =>
    simp only [recast, step, ← hwithin]
    split_ifs <;> rfl

end SameCharacter

/-- The end of the text at another place. -/
theorem finish_recast (progress : Progress) (place : Place) :
    finish (progress.recast φ r) (φ place) =
      (finish progress place).map (Token.recast φ (recastText r)) := by
  cases progress with
  | numeral start part read =>
    simp only [recast, finish, numeralToken]
    split_ifs
    · cases read.value? <;> rfl
    · rfl
  | between | word | text | escape | hex | pair | pairEscape => rfl

theorem length_read_of_endHex {start : Place} {read : List Char} {high value : Option Nat}
    {next : Progress} {tokens : List Token}
    (h : endHex start read high value place = .more tokens next) :
    read.length ≤ next.read.length := by
  cases decodes high value with
  | broken reason hstep =>
    rw [hstep] at h
    cases h
  | text d _ hstep =>
    rw [hstep] at h
    cases h
    exact Nat.le_succ _
  | pair n _ hstep =>
    rw [hstep] at h
    cases h
    exact Nat.le_refl _

/-- The characters that are read of a text become no fewer until the text ends. -/
theorem eq_between_or_length_le {progress next : Progress} {tokens : List Token}
    (h : step progress place c = .more tokens next) :
    next = .between ∨ progress.read.length ≤ next.read.length := by
  cases progress with
  | between | word | numeral => exact Or.inr (Nat.zero_le _)
  | text start read =>
    simp only [step] at h
    split_ifs at h <;> cases h
    · exact Or.inl rfl
    · exact Or.inr (Nat.le_refl _)
    · exact Or.inr (Nat.le_succ _)
  | escape start read =>
    simp only [step] at h
    split_ifs at h
    · cases h
      exact Or.inr (Nat.le_refl _)
    · split at h <;> cases h
      exact Or.inr (Nat.le_succ _)
  | hex start read high missing value =>
    simp only [step] at h
    split_ifs at h
    · cases h
      exact Or.inr (Nat.le_refl _)
    · exact Or.inr (length_read_of_endHex h)
  | pair start read high | pairEscape start read high =>
    simp only [step] at h
    split_ifs at h
    cases h
    exact Or.inr (Nat.le_refl _)

end Progress

/-! ## Where faults are found -/

namespace Progress

/-- Where faults are found at the token goes along with its start. -/
def Glances (φ : Place → Place) : Progress → Prop
  | .between => True
  | .word start _ _ | .numeral start _ _ | .text start _ | .escape start _ | .hex start _ _ _ _
  | .pair start _ _ | .pairEscape start _ _ => φ start.next = (φ start).next

end Progress

/-- Where faults are found at the tokens of a step goes along with their starts. -/
def Step.Glances (φ : Place → Place) : Step → Prop
  | .more tokens next => (∀ t ∈ tokens, t.Glances φ) ∧ next.Glances φ
  | .stop tokens => ∀ t ∈ tokens, t.Glances φ

namespace Progress

variable {φ : Place → Place} {place : Place}

theorem begin_glances (hplace : φ place.next = (φ place).next) (c : Char) :
    (begin place c).Glances φ := by
  cases opens c with
  | stray h =>
    rw [h]
    exact List.forall_mem_singleton.mpr hplace
  | blank _ h =>
    rw [h]
    exact ⟨List.forall_mem_nil _, trivial⟩
  | single lexeme _ _ h =>
    rw [h]
    exact ⟨List.forall_mem_singleton.mpr hplace, trivial⟩
  | numeral _ _ _ h | word _ _ _ _ h | text _ h =>
    rw [h]
    exact ⟨List.forall_mem_nil _, hplace⟩

theorem stepNumeral_glances (hplace : φ place.next = (φ place).next) {start : Place}
    (hstart : φ start.next = (φ start).next) (part : NumeralPart) (read : Numeral) (c : Char) :
    (stepNumeral start part read place c).Glances φ := by
  have hbegin := begin_glances hplace c
  cases extends_cases part read c with
  | broken h =>
    obtain ⟨reason, place', h⟩ := h start place
    rw [h]
    exact List.forall_mem_singleton.mpr hstart
  | further part' read' _ h =>
    rw [h]
    exact ⟨List.forall_mem_nil _, hstart⟩
  | ends h =>
    rw [h]
    unfold endNumeral
    cases read.value? with
    | none => exact List.forall_mem_singleton.mpr hstart
    | some value =>
      revert hbegin
      cases begin place c with
      | more tokens next =>
        exact fun hbegin => ⟨List.forall_mem_cons.mpr ⟨hstart, hbegin.1⟩, hbegin.2⟩
      | stop tokens => exact fun hbegin => List.forall_mem_cons.mpr ⟨hstart, hbegin⟩

theorem endHex_glances {start : Place} (hstart : φ start.next = (φ start).next)
    (read : List Char) (high value : Option Nat) (place : Place) :
    (endHex start read high value place).Glances φ := by
  cases decodes high value with
  | broken reason h =>
    rw [h]
    exact List.forall_mem_singleton.mpr hstart
  | text _ _ h | pair _ _ h =>
    rw [h]
    exact ⟨List.forall_mem_nil _, hstart⟩

/-- A step puts out tokens that start where its token did or at the character. -/
theorem step_glances {progress : Progress} (h : progress.Glances φ)
    (hplace : φ place.next = (φ place).next) (c : Char) :
    (step progress place c).Glances φ := by
  have hfault : ∀ {start isText reason place'}, φ start.next = (φ start).next →
      (Step.stop [.broken start isText reason place']).Glances φ :=
    fun hstart => List.forall_mem_singleton.mpr hstart
  cases progress with
  | between => exact begin_glances hplace c
  | word start value rest =>
    cases rest with
    | nil => exact begin_glances hplace c
    | cons expected rest =>
      unfold step
      dsimp only
      split_ifs
      · exact hfault h
      · exact ⟨List.forall_mem_singleton.mpr h, trivial⟩
      · exact ⟨List.forall_mem_nil _, h⟩
  | numeral start part read => exact stepNumeral_glances hplace h part read c
  | text start read =>
    unfold step
    dsimp only
    split_ifs
    · exact ⟨List.forall_mem_singleton.mpr h, trivial⟩
    · exact ⟨List.forall_mem_nil _, h⟩
    · exact hfault h
    · exact ⟨List.forall_mem_nil _, h⟩
  | escape start read =>
    unfold step
    dsimp only
    split_ifs
    · exact ⟨List.forall_mem_nil _, h⟩
    · cases escapedChar? c with
      | some escaped => exact ⟨List.forall_mem_nil _, h⟩
      | none => exact hfault h
  | hex start read high missing value =>
    unfold step
    dsimp only
    split_ifs
    · exact ⟨List.forall_mem_nil _, h⟩
    · exact endHex_glances h read high _ _
  | pair start read high | pairEscape start read high =>
    unfold step
    dsimp only
    split_ifs
    · exact ⟨List.forall_mem_nil _, h⟩
    · exact hfault h

theorem finish_glances {progress : Progress} (h : progress.Glances φ)
    (hplace : φ place.next = (φ place).next) : ∀ t ∈ finish progress place, t.Glances φ := by
  cases progress with
  | numeral start part read =>
    simp only [finish, numeralToken]
    split_ifs
    · cases read.value? <;>
        exact List.forall_mem_cons.mpr ⟨h, List.forall_mem_singleton.mpr hplace⟩
    · exact List.forall_mem_singleton.mpr h
  | between => exact List.forall_mem_singleton.mpr hplace
  | word | text | escape | hex | pair | pairEscape => exact List.forall_mem_singleton.mpr h

end Progress

end Stencil.Json
