import Stencil.Proofs.Language.Legal
import Stencil.Proofs.Text.Numerals

/-!
# First characters of identifiers

An identifier of C# keeps alphanumeric characters of any script, while the underscore that keeps a
digit from coming first is put in front of an ASCII digit only. So the first character is a letter
or an underscore, whatever the name starts with, except where the name starts with a numeral of
another script: this one stays in front.

## Main results

* `CSharp.first_cases`: where the first character of an identifier comes from
* `CSharp.first_of_safeIdentifier`: the names whose identifier starts with a numeric character
-/

namespace Stencil

namespace Naming

/-- Replacing keeps the first character of a name unless it is a digit or not allowed. -/
theorem first_replaceIllegal (allowed : Char → Bool) (name : List Char) :
    ∃ first rest, replaceIllegal allowed name = first :: rest ∧
      (first = '_' ∧ (∀ c ∈ name.head?, c.isDigit = true ∨ ¬ allowed c = true) ∨
        name.head? = some first ∧ allowed first = true ∧ ¬ first.isDigit = true) := by
  cases name with
  | nil => exact ⟨'_', [], rfl, Or.inl ⟨rfl, by simp⟩⟩
  | cons c cs =>
    by_cases hallowed : allowed c = true
    · by_cases hdigit : c.isDigit = true
      · have heq : replaceIllegal allowed (c :: cs) =
            '_' :: c :: cs.map fun c => if allowed c then c else '_' := by
          simp [replaceIllegal, hallowed, hdigit]
        exact ⟨_, _, heq, Or.inl ⟨rfl, by simp [hdigit]⟩⟩
      · have heq : replaceIllegal allowed (c :: cs) =
            c :: cs.map fun c => if allowed c then c else '_' := by
          simp [replaceIllegal, hallowed, hdigit]
        exact ⟨_, _, heq, Or.inr ⟨rfl, hallowed, hdigit⟩⟩
    · have heq : replaceIllegal allowed (c :: cs) =
          '_' :: cs.map fun c => if allowed c then c else '_' := by
        simp [replaceIllegal, hallowed]
      exact ⟨_, _, heq, Or.inl ⟨rfl, by simp [hallowed]⟩⟩

end Naming

namespace CSharp

open Naming

/-- An `@` that is put in front of a keyword is no part of it. -/
theorem bareChars_escapeKeyword {name : List Char}
    (hchars : ∀ c ∈ name, isIdentifierChar c = true) : bareChars (escapeKeyword name) = name := by
  unfold escapeKeyword
  split
  · rfl
  · refine bareChars_of_forall_ne fun c hc => ?_
    rintro rfl
    exact absurd (hchars '@' hc) (by decide)

/-- **Where the first character of an identifier comes from.** It is an underscore, and the name
starts with a digit or with nothing that an identifier may hold, or it is the one the name starts
with, or it is the small letter of a keyword that comes with its `@`. -/
theorem first_cases (name : List Char) :
    ∃ first rest, bareChars (safeIdentifier name) = first :: rest ∧
      (first = '_' ∧ (∀ c ∈ name.head?, c.isDigit = true ∨ ¬ isIdentifierChar c = true) ∨
        name.head? = some first ∧ isIdentifierChar first = true ∧ ¬ first.isDigit = true ∨
        name.head? = some '@' ∧ first.isLower = true) := by
  rcases exists_or_safeIdentifier_eq name with ⟨keyword, rfl, hkeyword, heq⟩ | heq
  · obtain ⟨first, rest, rfl, -⟩ := exists_of_isKeyword hkeyword
    have hlower := isLower_of_mem_keywords (List.contains_iff_mem.mp hkeyword) first (by simp)
    exact ⟨first, rest, by rw [heq, bareChars], Or.inr (Or.inr ⟨rfl, hlower⟩)⟩
  · obtain ⟨first, rest, hreplaced, hfirst⟩ := first_replaceIllegal isIdentifierChar name
    refine ⟨first, rest, ?_, hfirst.imp_right Or.inl⟩
    rw [heq, bareChars_escapeKeyword fun c hc => isIdentifierChar_of_mem_replaceIllegal hc,
      hreplaced]

/-! ## Numerals and small letters -/

theorem lt_of_isLower {c : Char} (h : c.isLower = true) : c.toNat < 0x80 := by
  have hbounds : c.val ≥ 97 ∧ c.val ≤ 122 := by
    change (decide (c.val ≥ 97) && decide (c.val ≤ 122)) = true at h
    rwa [Bool.and_eq_true, decide_eq_true_eq, decide_eq_true_eq] at h
  have hle : c.toNat ≤ 122 := hbounds.2
  omega

theorem isAlphabetic_of_isLower {c : Char} (h : c.isLower = true) : Text.isAlphabetic c = true := by
  have hdigit : ¬ c.isDigit = true := fun hdigit => not_isLower_of_isDigit hdigit h
  have hlt := lt_of_isLower h
  have halpha : c.isAlpha = true := by
    change (c.isUpper || c.isLower) = true
    rw [h, Bool.or_true]
  simp [Text.isAlphabetic, Text.isAlphanumeric_of_lt hlt, Text.isFigure_of_lt hlt, Char.isAlphanum,
    halpha, hdigit]

theorem not_isNumeric_of_isLower {c : Char} (h : c.isLower = true) : ¬ Text.isNumeric c = true := by
  rw [Text.isNumeric_of_lt (lt_of_isLower h)]
  exact fun hdigit => not_isLower_of_isDigit hdigit h

theorem not_isNumeric_underscore : ¬ Text.isNumeric '_' = true := by
  rw [Text.isNumeric_of_lt (by decide)]
  decide

theorem not_isNumeric_at : ¬ Text.isNumeric '@' = true := by
  rw [Text.isNumeric_of_lt (by decide)]
  decide

theorem isIdentifierChar_of_isNumeric {c : Char} (h : Text.isNumeric c = true) :
    isIdentifierChar c = true := by
  simp [isIdentifierChar, Text.isAlphanumeric_of_isNumeric h]

theorem isNumeric_of_isFigure {c : Char} (h : Text.isFigure c = true) :
    Text.isNumeric c = true := by
  simp [Text.isNumeric, h]

/-! ## The first character -/

/-- **The first character of an identifier**, behind the `@` of a keyword, is a letter or an
underscore if and only if the name does not start with a digit or an other number outside ASCII; and
it is not numeric if and only if the name does not start with a numeral outside ASCII. A numeral that
the name starts with gets an underscore in front if and only if it is an ASCII digit. -/
theorem first_of_safeIdentifier (name : List Char) :
    ∃ first rest, bareChars (safeIdentifier name) = first :: rest ∧
      (Text.isAlphabetic first = true ∨ first = '_' ↔
        ∀ c ∈ name.head?, Text.isFigure c = true → c.isDigit = true) ∧
      (¬ Text.isNumeric first = true ↔
        ∀ c ∈ name.head?, Text.isNumeric c = true → c.isDigit = true) ∧
      ∀ c ∈ name.head?, Text.isNumeric c = true → (first = '_' ↔ c.isDigit = true) := by
  obtain ⟨first, rest, hbare, hfirst⟩ := first_cases name
  refine ⟨first, rest, hbare, ?_⟩
  rcases hfirst with ⟨rfl, hhead⟩ | ⟨hhead, hchar, hdigit⟩ | ⟨hhead, hlower⟩
  · -- An underscore: a numeral that the name starts with is allowed, so that it is an ASCII digit.
    have hstart : ∀ c ∈ name.head?, Text.isNumeric c = true → c.isDigit = true :=
      fun c hc hnumeric => (hhead c hc).resolve_right
        (not_not_intro (isIdentifierChar_of_isNumeric hnumeric))
    have hfigure : ∀ c ∈ name.head?, Text.isFigure c = true → c.isDigit = true :=
      fun c hc h => hstart c hc (isNumeric_of_isFigure h)
    exact ⟨iff_of_true (Or.inr rfl) hfigure, iff_of_true not_isNumeric_underscore hstart,
      fun c hc hnumeric => iff_of_true rfl (hstart c hc hnumeric)⟩
  · -- The first character of the name, which is no ASCII digit.
    simp only [hhead, Option.mem_some_iff, forall_eq']
    have hletter : Text.isAlphabetic first = true ∨ first = '_' ↔ ¬ Text.isFigure first = true := by
      by_cases hunderscore : first = '_'
      · subst hunderscore
        exact iff_of_true (Or.inr rfl) fun h => not_isNumeric_underscore (isNumeric_of_isFigure h)
      · have halphanumeric : Text.isAlphanumeric first = true := by
          simpa [isIdentifierChar, hunderscore] using hchar
        rw [or_iff_left hunderscore, Text.isAlphabetic_iff_of_isAlphanumeric halphanumeric]
    refine ⟨?_, ?_, fun hnumeric => iff_of_false ?_ hdigit⟩
    · rw [hletter]
      exact ⟨fun h hfigure => absurd hfigure h, fun h hfigure => hdigit (h hfigure)⟩
    · exact ⟨fun h hnumeric => absurd hnumeric h, fun h hnumeric => hdigit (h hnumeric)⟩
    · rintro rfl
      exact not_isNumeric_underscore hnumeric
  · -- A keyword with its `@`.
    simp only [hhead, Option.mem_some_iff, forall_eq']
    exact ⟨iff_of_true (Or.inl (isAlphabetic_of_isLower hlower))
        fun h => absurd (isNumeric_of_isFigure h) not_isNumeric_at,
      iff_of_true (not_isNumeric_of_isLower hlower) fun h => absurd h not_isNumeric_at,
      fun h => absurd h not_isNumeric_at⟩

/-- The Arabic digit three stays in front, where the digit three of ASCII gets an underscore. -/
theorem safeIdentifier_arabicDigit :
    bareChars (safeIdentifier ['٣']) = ['٣'] ∧ Text.isNumeric '٣' = true ∧
      ¬ (Text.isAlphabetic '٣' = true ∨ '٣' = '_') ∧
      bareChars (safeIdentifier ['3']) = ['_', '3'] := by
  decide +kernel

end CSharp

end Stencil
