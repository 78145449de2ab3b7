import Mathlib
import Stencil.Naming.Words
import Stencil.Proofs.Text.Cutting

/-!
# Casings of names

A name in one of the casings is a single word: it holds ASCII letters and digits only, so that it is
not cut again. In such a name a casing changes no more than the case of the first letter, which the
other casing changes back. Of casings made one after the other the last one alone is seen.

## Main definitions

* `IsWord name`: there are ASCII letters and digits only
* `letters name`: the letters and digits of a name, whatever their case
* `IsPascalCase name`, `IsCamelCase name`: a word that does not start with a small letter, or with a
  capital one

## Main results

* `IsWord.pascalCase_eq`, `IsWord.camelCase_eq`: a word keeps all but the case of its first letter
* `isPascalCase_pascalCase`, `isCamelCase_camelCase`: what a casing makes is in this casing
* `letters_pascalCase`, `letters_camelCase`: only separators and case are lost
* `casings_absorb`: casings made one after the other
-/

namespace Stencil.Naming

open Text

/-! ## Letters and digits -/

theorem toNat_lt_of_isAlphanum {c : Char} (h : c.isAlphanum = true) : c.toNat < 0x80 := by
  have hval : c.toNat = c.val.toNat := rfl
  unfold Char.isAlphanum Char.isAlpha Char.isUpper Char.isLower Char.isDigit at h
  simp only [Bool.or_eq_true, Bool.and_eq_true, decide_eq_true_eq, UInt32.le_iff_toNat_le,
    ge_iff_le, Char.reduceVal, UInt32.reduceToNat] at h
  omega

/-- A change of case: letters and digits stay letters and digits, and lower case undoes it. -/
structure ChangesCase (change : Char → Char) : Prop where
  isAlphanum : ∀ c, c.isAlphanum = true → (change c).isAlphanum = true
  toLower_eq : ∀ c, (change c).toLower = c.toLower

theorem changesCase_toUpper : ChangesCase Char.toUpper where
  isAlphanum c h := by
    by_cases hlower : c.isLower = true
    · simp [Char.isAlphanum, Char.isAlpha, hlower]
    · rwa [Char.toUpper_eq_of_not_isLower hlower]
  toLower_eq := Char.toLower_toUpper_eq_toLower

theorem changesCase_toLower : ChangesCase Char.toLower where
  isAlphanum c h := by
    by_cases hupper : c.isUpper = true
    · simp [Char.isAlphanum, Char.isAlpha, hupper]
    · rwa [Char.toLower_eq_of_not_isUpper hupper]
  toLower_eq := Char.toLower_toLower_eq_toLower

/-- The letters and digits of a name, whatever their case. -/
def letters (name : List Char) : List Char := (name.filter Char.isAlphanum).map Char.toLower

theorem letters_flatten (names : List (List Char)) :
    letters names.flatten = names.flatMap letters := by
  induction names with
  | nil => rfl
  | cons name names ih =>
    rw [List.flatMap_cons, ← ih]
    simp [letters]

/-! ## Words -/

/-- There are ASCII letters and digits only. -/
def IsWord (name : List Char) : Prop := ∀ c ∈ name, c.isAlphanum = true

namespace IsWord

variable {name : List Char}

theorem letters_eq (h : IsWord name) : letters name = name.map Char.toLower := by
  rw [letters, List.filter_eq_self.mpr h]

section Change

variable {change : Char → Char}

theorem modifyHead (h : IsWord name) (hchange : ChangesCase change) :
    IsWord (name.modifyHead change) := by
  cases name with
  | nil => exact h
  | cons c rest =>
    obtain ⟨hfirst, hrest⟩ := List.forall_mem_cons.mp h
    exact List.forall_mem_cons.mpr ⟨hchange.isAlphanum c hfirst, hrest⟩

theorem letters_modifyHead (h : IsWord name) (hchange : ChangesCase change) :
    letters (name.modifyHead change) = letters name := by
  rw [(h.modifyHead hchange).letters_eq, h.letters_eq]
  cases name with
  | nil => rfl
  | cons c rest => rw [List.modifyHead_cons, List.map_cons, hchange.toLower_eq, List.map_cons]

end Change

/-- A word is not cut. -/
theorem words_eq (h : IsWord name) (hsome : name ≠ []) : words name = [name] :=
  piecesWhere_of_forall hsome fun c hc => by rw [h c hc, Bool.not_true]

theorem capitalize_eq (h : IsWord name) : capitalize name = name.modifyHead Char.toUpper := by
  cases name with
  | nil => rfl
  | cons c rest =>
    rw [capitalize, upper_of_lt (toNat_lt_of_isAlphanum (h c List.mem_cons_self))]
    rfl

theorem uncapitalize_eq (h : IsWord name) : uncapitalize name = name.modifyHead Char.toLower := by
  cases name with
  | nil => rfl
  | cons c rest =>
    rw [uncapitalize, lower_of_lt (toNat_lt_of_isAlphanum (h c List.mem_cons_self))]
    rfl

theorem isWord_capitalize (h : IsWord name) : IsWord (capitalize name) := by
  rw [h.capitalize_eq]
  exact h.modifyHead changesCase_toUpper

theorem isWord_uncapitalize (h : IsWord name) : IsWord (uncapitalize name) := by
  rw [h.uncapitalize_eq]
  exact h.modifyHead changesCase_toLower

theorem capitalize_uncapitalize (h : IsWord name) :
    capitalize (uncapitalize name) = capitalize name := by
  rw [h.isWord_uncapitalize.capitalize_eq, h.uncapitalize_eq, h.capitalize_eq,
    List.modifyHead_modifyHead]
  exact congrArg name.modifyHead (funext Char.toUpper_toLower_eq_toUpper)

theorem uncapitalize_capitalize (h : IsWord name) :
    uncapitalize (capitalize name) = uncapitalize name := by
  rw [h.isWord_capitalize.uncapitalize_eq, h.capitalize_eq, h.uncapitalize_eq,
    List.modifyHead_modifyHead]
  exact congrArg name.modifyHead (funext Char.toLower_toUpper_eq_toLower)

/-- A word keeps all but its first letter, which is capitalized. -/
theorem pascalCase_eq (h : IsWord name) : pascalCase name = capitalize name := by
  cases name with
  | nil => rfl
  | cons c rest => rw [pascalCase, h.words_eq (List.cons_ne_nil c rest), List.flatMap_singleton]

/-- A word keeps all but its first letter, which becomes a small one. -/
theorem camelCase_eq (h : IsWord name) : camelCase name = uncapitalize name := by
  rw [camelCase, h.pascalCase_eq, h.uncapitalize_capitalize]

end IsWord

theorem isWord_of_mem_words {name word : List Char} (h : word ∈ words name) : IsWord word := by
  intro c hc
  have hinside := not_separator_of_mem_piecesWhere h c hc
  simpa using hinside

/-- The words of a name hold its letters and digits. -/
theorem flatten_words (name : List Char) : (words name).flatten = name.filter Char.isAlphanum := by
  rw [words, flatten_piecesWhere]
  simp

/-! ## Names in a casing -/

/-- A word that does not start with a small letter. -/
structure IsPascalCase (name : List Char) : Prop where
  isWord : IsWord name
  first : ∀ c ∈ name.head?, ¬ c.isLower = true

/-- A word that does not start with a capital letter. -/
structure IsCamelCase (name : List Char) : Prop where
  isWord : IsWord name
  first : ∀ c ∈ name.head?, ¬ c.isUpper = true

/-- Nothing changes where the first letter does not. -/
theorem modifyHead_eq_self {name : List Char} {change : Char → Char}
    (h : ∀ c ∈ name.head?, change c = c) : name.modifyHead change = name := by
  cases name with
  | nil => rfl
  | cons c rest => rw [List.modifyHead_cons, h c rfl]

theorem IsPascalCase.capitalize_eq_self {name : List Char} (h : IsPascalCase name) :
    capitalize name = name := by
  rw [h.isWord.capitalize_eq]
  exact modifyHead_eq_self fun c hc => Char.toUpper_eq_of_not_isLower (h.first c hc)

theorem IsCamelCase.uncapitalize_eq_self {name : List Char} (h : IsCamelCase name) :
    uncapitalize name = name := by
  rw [h.isWord.uncapitalize_eq]
  exact modifyHead_eq_self fun c hc => Char.toLower_eq_of_not_isUpper (h.first c hc)

theorem isPascalCase_pascalCase (name : List Char) : IsPascalCase (pascalCase name) := by
  constructor
  · intro c hc
    obtain ⟨word, hword, hmem⟩ := List.mem_flatMap.mp hc
    exact (isWord_of_mem_words hword).isWord_capitalize c hmem
  · intro c hc
    rw [pascalCase] at hc
    cases hwords : words name with
    | nil => simp [hwords] at hc
    | cons word others =>
      have hmem : word ∈ words name := hwords ▸ List.mem_cons_self
      -- The first word is not empty, so that what comes first is its first letter.
      cases word with
      | nil => exact absurd rfl (ne_nil_of_mem_piecesWhere hmem)
      | cons first rest =>
        rw [hwords, List.flatMap_cons, (isWord_of_mem_words hmem).capitalize_eq,
          List.modifyHead_cons, List.cons_append, List.head?_cons, Option.mem_some_iff] at hc
        rw [← hc, Char.isLower_toUpper_eq_false]
        exact Bool.false_ne_true

theorem isCamelCase_camelCase (name : List Char) : IsCamelCase (camelCase name) := by
  have hword := (isPascalCase_pascalCase name).isWord
  refine ⟨hword.isWord_uncapitalize, fun c hc => ?_⟩
  rw [camelCase, hword.uncapitalize_eq, List.head?_modifyHead, Option.mem_map] at hc
  obtain ⟨first, -, rfl⟩ := hc
  rw [Char.isUpper_toLower_eq_false]
  exact Bool.false_ne_true

/-! ## What is lost -/

/-- Only separators and the case of letters are lost. -/
theorem letters_pascalCase (name : List Char) : letters (pascalCase name) = letters name := by
  have hwords : ∀ word ∈ words name, letters (capitalize word) = letters word := by
    intro word hmem
    have hword := isWord_of_mem_words hmem
    rw [hword.capitalize_eq, hword.letters_modifyHead changesCase_toUpper]
  calc letters (pascalCase name)
      = (words name).flatMap fun word => letters (capitalize word) := by
        rw [pascalCase, List.flatMap_def, letters_flatten, List.flatMap_map]
    _ = (words name).flatMap letters := List.flatMap_congr hwords
    _ = letters (name.filter Char.isAlphanum) := by rw [← letters_flatten, flatten_words]
    _ = letters name := by rw [letters, List.filter_filter, letters]; simp

theorem letters_camelCase (name : List Char) : letters (camelCase name) = letters name := by
  have hword := (isPascalCase_pascalCase name).isWord
  rw [camelCase, hword.uncapitalize_eq, hword.letters_modifyHead changesCase_toLower,
    letters_pascalCase]

/-! ## Casings one after the other -/

theorem pascalCase_eq_self_iff {name : List Char} : pascalCase name = name ↔ IsPascalCase name := by
  constructor
  · intro h
    rw [← h]
    exact isPascalCase_pascalCase name
  · intro h
    rw [h.isWord.pascalCase_eq, h.capitalize_eq_self]

theorem camelCase_eq_self_iff {name : List Char} : camelCase name = name ↔ IsCamelCase name := by
  constructor
  · intro h
    rw [← h]
    exact isCamelCase_camelCase name
  · intro h
    rw [h.isWord.camelCase_eq, h.uncapitalize_eq_self]

theorem pascalCase_camelCase (name : List Char) : pascalCase (camelCase name) = pascalCase name := by
  have hpascal := isPascalCase_pascalCase name
  calc pascalCase (camelCase name)
      = capitalize (camelCase name) := (isCamelCase_camelCase name).isWord.pascalCase_eq
    _ = capitalize (pascalCase name) := hpascal.isWord.capitalize_uncapitalize
    _ = pascalCase name := hpascal.capitalize_eq_self

/-- **Casings made one after the other**: the last one alone is seen, whatever the name was. What
they make are words of ASCII letters and digits, those of the name in their order, and a name stays
as it is exactly if it is in the casing already. -/
theorem casings_absorb (name : List Char) :
    (∀ c ∈ pascalCase name, c.isAlphanum = true) ∧
      (∀ c ∈ camelCase name, c.isAlphanum = true) ∧
      pascalCase (pascalCase name) = pascalCase name ∧
      camelCase (camelCase name) = camelCase name ∧
      pascalCase (camelCase name) = pascalCase name ∧
      camelCase (pascalCase name) = camelCase name ∧
      (pascalCase name = name ↔ IsPascalCase name) ∧
      (camelCase name = name ↔ IsCamelCase name) ∧
      letters (pascalCase name) = letters name ∧
      letters (camelCase name) = letters name := by
  have hpascal := isPascalCase_pascalCase name
  have hcamel := isCamelCase_camelCase name
  have htwice : pascalCase (pascalCase name) = pascalCase name := pascalCase_eq_self_iff.mpr hpascal
  refine ⟨hpascal.isWord, hcamel.isWord, htwice, camelCase_eq_self_iff.mpr hcamel,
    pascalCase_camelCase name, ?_, pascalCase_eq_self_iff, camelCase_eq_self_iff,
    letters_pascalCase name, letters_camelCase name⟩
  -- Both sides are made of the name in the other casing.
  exact congrArg uncapitalize htwice

/-- Separators in front, runs of them and letters that are not ASCII leave nothing. -/
example : pascalCase "_pet-.ID 2nd".toList = "PetID2nd".toList ∧
    camelCase "ÉcoleId".toList = "coleId".toList := by
  decide

end Stencil.Naming
