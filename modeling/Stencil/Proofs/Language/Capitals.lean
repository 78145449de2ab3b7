import Mathlib
import Stencil.Proofs.Language.Unchanged

/-!
# Capital letters in front of classes

In TypeScript the name of a model is capitalized before characters are left out of it, so that a
small letter comes first in the identifier of the class if all in front of it is left out and it is
not capitalized as the first of a later part. An identifier of a class that is made of such an
identifier is capitalized, and that is the only change. In C# letters are left as they are.

## Main definitions

* `TypeScript.StartsSmall name`: a small letter comes first
* `TypeScript.UncoversSmall name`: a small letter comes first when the capitalized name has lost
  what is left out

## Main results

* `TypeScript.startsSmall_kept_capitalize_iff`: when a small letter comes first in what is kept
* `TypeScript.IsLegal.typeIdentifier_eq`: an identifier of a class made of a legal one is this one
  capitalized
* `typeIdentifier_again`: when identifiers of classes stay as they are
-/

namespace Stencil

open Naming

namespace TypeScript

/-! ## Letters of identifiers -/

theorem isIdentifierChar_eq (c : Char) :
    isIdentifierChar c = (c.isUpper || c.isLower || c.isDigit || c == '_' || c == '$') :=
  rfl

theorem toNat_lt_of_isIdentifierChar {c : Char} (h : isIdentifierChar c = true) :
    c.toNat < 0x80 := by
  have hval : c.toNat = c.val.toNat := rfl
  rw [isIdentifierChar_eq] at h
  unfold Char.isUpper Char.isLower Char.isDigit at h
  simp only [Bool.or_eq_true, Bool.and_eq_true, decide_eq_true_eq, beq_iff_eq,
    UInt32.le_iff_toNat_le, ge_iff_le, Char.reduceVal, UInt32.reduceToNat] at h
  rcases h with (h | rfl) | rfl
  · omega
  · decide
  · decide

theorem isIdentifierChar_of_isLower {c : Char} (h : c.isLower = true) :
    isIdentifierChar c = true := by
  simp [isIdentifierChar_eq, h]

theorem isIdentifierStart_toUpper {c : Char} (h : isIdentifierStart c = true) :
    isIdentifierStart c.toUpper = true := by
  by_cases hlower : c.isLower = true
  · simp [isIdentifierStart, Char.isAlpha, hlower]
  · rwa [Char.toUpper_eq_of_not_isLower hlower]

theorem toUpper_eq_self_iff {c : Char} : c.toUpper = c ↔ ¬ c.isLower = true := by
  refine ⟨fun h => ?_, Char.toUpper_eq_of_not_isLower⟩
  rw [← h, Char.isLower_toUpper_eq_false]
  exact Bool.false_ne_true

theorem capitalize_cons {c : Char} (h : isIdentifierChar c = true) (rest : List Char) :
    capitalize (c :: rest) = c.toUpper :: rest := by
  rw [capitalize, Text.upper_of_lt (toNat_lt_of_isIdentifierChar h), List.singleton_append]

theorem capitalize_append {passed : List Char} (h : passed ≠ []) (rest : List Char) :
    capitalize (passed ++ rest) = capitalize passed ++ rest := by
  cases passed with
  | nil => exact absurd rfl h
  | cons c passed => simp [capitalize]

/-- A small letter in a capitalized name stands in the name, and not in front. -/
theorem exists_of_capitalize_eq_append {c : Char} (hc : c.isLower = true)
    {name passed rest : List Char} (h : capitalize name = passed ++ c :: rest) :
    ∃ skipped, name = skipped ++ c :: rest ∧ skipped ≠ [] ∧ passed = capitalize skipped := by
  cases name with
  | nil => exact absurd h (by simp [capitalize])
  | cons d name =>
    have hnotMem : c ∉ Text.upper d := fun hmem => Text.not_isLower_of_mem_upper hmem hc
    rw [capitalize, List.append_eq_append_iff] at h
    -- Upper case of the first character may be several characters, but the letter is none of them.
    rcases h with ⟨between, rfl, rfl⟩ | ⟨between, hupper, hrest⟩
    · exact ⟨d :: between, rfl, List.cons_ne_nil d between, rfl⟩
    · cases between with
      | nil =>
        refine ⟨[d], by rw [← List.nil_append name, ← hrest]; rfl, List.cons_ne_nil d [], ?_⟩
        rw [capitalize, hupper, List.append_nil, List.append_nil]
      | cons e between =>
        refine absurd ?_ hnotMem
        rw [hupper, (List.cons.inj hrest).1]
        exact List.mem_append_right _ List.mem_cons_self

/-! ## Small letters in front -/

/-- A small letter comes first. -/
def StartsSmall (name : List Char) : Prop :=
  ∃ first rest, name = first :: rest ∧ first.isLower = true

theorem startsSmall_iff {name : List Char} :
    StartsSmall name ↔ name.head?.any Char.isLower = true := by
  cases name with
  | nil => simp [StartsSmall]
  | cons first rest =>
    constructor
    · rintro ⟨_, _, heq, hlower⟩
      rwa [← (List.cons.inj heq).1] at hlower
    · exact fun hlower => ⟨first, rest, rfl, hlower⟩

/-- A small letter comes first when the capitalized name has lost what is left out: of the characters
in front of it, of which there are some, nothing is kept, and it does not begin a part behind another
one. -/
def UncoversSmall (name : List Char) : Prop :=
  ∃ passed c rest, name = passed ++ c :: rest ∧ passed ≠ [] ∧ kept (capitalize passed) = [] ∧
    Position.front.behind (capitalize passed) ≠ .between ∧ c.isLower = true

/-- **A small letter comes first** in what is kept of a capitalized name exactly if it is uncovered:
capitalizing leaves no small letter. -/
theorem startsSmall_kept_capitalize_iff {name : List Char} :
    StartsSmall (kept (capitalize name)) ↔ UncoversSmall name := by
  constructor
  · rintro ⟨first, others, hkept, hlower⟩
    rw [kept_eq] at hkept
    obtain ⟨passed, c, rest, hname, hpassed, hfirst⟩ := exists_of_filter_joinFrom_eq_cons hkept
    -- The small letter is left by itself and not by another one that is capitalized.
    obtain ⟨hposition, rfl⟩ : Position.front.behind passed ≠ .between ∧ first = c := by
      unfold Position.leaves at hfirst
      split at hfirst
      · exact absurd hfirst List.not_mem_nil
      · split at hfirst
        · exact absurd hlower (Text.not_isLower_of_mem_upper hfirst)
        · rename_i hposition
          exact ⟨hposition, List.mem_singleton.mp hfirst⟩
    obtain ⟨skipped, rfl, hskipped, rfl⟩ := exists_of_capitalize_eq_append hlower hname
    rw [← kept_eq] at hpassed
    exact ⟨skipped, first, rest, rfl, hskipped, hpassed, hposition, hlower⟩
  · rintro ⟨passed, c, rest, rfl, hsome, hpassed, hposition, hlower⟩
    have hchar := isIdentifierChar_of_isLower hlower
    have hkept : kept (capitalize (passed ++ c :: rest)) =
        c :: (joinFrom ((Position.front.behind (capitalize passed)).next c) rest).filter
          isIdentifierChar := by
      rw [capitalize_append hsome, kept_append hpassed, joinFrom,
        Position.leaves_of_ne_between (isPartSeparator_of_isIdentifierChar hchar) hposition,
        List.singleton_append, List.filter_cons_of_pos hchar]
    exact ⟨c, _, hkept, hlower⟩

/-! ## Identifiers -/

theorem not_startsSmall_underscore_cons (rest : List Char) : ¬ StartsSmall ('_' :: rest) := by
  rw [startsSmall_iff]
  exact Bool.false_ne_true

theorem StartsSmall.guardDigit_eq {name : List Char} (h : StartsSmall name) :
    guardDigit name = name := by
  obtain ⟨first, rest, rfl, hlower⟩ := h
  exact if_neg fun hdigit => CSharp.not_isLower_of_isDigit hdigit hlower

theorem startsSmall_guardDigit_iff {name : List Char} :
    StartsSmall (guardDigit name) ↔ StartsSmall name := by
  refine ⟨fun h => ?_, fun h => h.guardDigit_eq.symm ▸ h⟩
  cases name with
  | nil => exact h
  | cons c rest =>
    rw [guardDigit] at h
    split at h
    · exact absurd h (not_startsSmall_underscore_cons _)
    · exact h

theorem startsSmall_escapeReserved_iff {name : List Char} :
    StartsSmall (escapeReserved name) ↔
      StartsSmall name ∧ String.ofList name ∉ reservedWords := by
  by_cases hreserved : String.ofList name ∈ reservedWords
  · have hescaped : escapeReserved name = '_' :: name :=
      if_pos (List.contains_iff_mem.mpr hreserved)
    rw [hescaped]
    exact ⟨fun h => absurd h (not_startsSmall_underscore_cons name),
      fun h => absurd hreserved h.2⟩
  · rw [escapeReserved_eq_self hreserved]
    exact ⟨fun h => ⟨h, hreserved⟩, fun h => h.1⟩

/-- A small letter comes first in an identifier if it does in what is kept of the name, unless this
is a reserved word. -/
theorem startsSmall_sanitize_iff {name : List Char} :
    StartsSmall (sanitize name) ↔
      StartsSmall (kept name) ∧ String.ofList (kept name) ∉ reservedWords := by
  by_cases hkept : kept name = []
  · rw [sanitize_of_kept_eq_nil hkept, hkept]
    refine ⟨fun h => absurd h (not_startsSmall_underscore_cons _), ?_⟩
    rintro ⟨⟨first, rest, heq, -⟩, -⟩
    cases heq
  · rw [sanitize_of_kept_ne_nil hkept, startsSmall_escapeReserved_iff, startsSmall_guardDigit_iff]
    refine and_congr_right fun hsmall => ?_
    rw [hsmall.guardDigit_eq]

theorem startsSmall_of_mem_reservedWords {word : String} (h : word ∈ reservedWords) :
    StartsSmall word.toList := by
  have hwords : (reservedWords.all fun word => word.toList.head?.any Char.isLower) = true := by
    decide +kernel
  exact startsSmall_iff.mpr (List.all_eq_true.mp hwords word h)

namespace IsLegal

variable {name : String}

theorem exists_capitalize_eq (h : IsLegal name) :
    ∃ first rest, name.toList = first :: rest ∧ isIdentifierStart first = true ∧
      capitalize name.toList = first.toUpper :: rest := by
  obtain ⟨first, rest, hname, hfirst⟩ := h.starts
  refine ⟨first, rest, hname, hfirst, ?_⟩
  rw [hname, capitalize_cons (isIdentifierChar_of_isIdentifierStart hfirst)]

theorem not_startsSmall_capitalize (h : IsLegal name) :
    ¬ StartsSmall (capitalize name.toList) := by
  obtain ⟨first, rest, -, -, hcapitalize⟩ := h.exists_capitalize_eq
  rintro ⟨small, others, heq, hlower⟩
  rw [hcapitalize] at heq
  rw [← (List.cons.inj heq).1, Char.isLower_toUpper_eq_false] at hlower
  cases hlower

/-- A legal identifier stays legal when it is capitalized: reserved words start with small
letters. -/
theorem isLegal_capitalize (h : IsLegal name) :
    IsLegal (String.ofList (capitalize name.toList)) := by
  obtain ⟨first, rest, hname, hfirst, hcapitalize⟩ := h.exists_capitalize_eq
  refine ⟨⟨first.toUpper, rest, ?_, isIdentifierStart_toUpper hfirst⟩, ?_, fun hreserved => ?_⟩
  · rw [String.toList_ofList, hcapitalize]
  · rw [String.toList_ofList, hcapitalize]
    have hchars := h.chars
    rw [hname] at hchars
    refine List.forall_mem_cons.mpr ⟨?_, (List.forall_mem_cons.mp hchars).2⟩
    exact isIdentifierChar_of_isIdentifierStart (isIdentifierStart_toUpper hfirst)
  · refine h.not_startsSmall_capitalize ?_
    have hsmall := startsSmall_of_mem_reservedWords hreserved
    rwa [String.toList_ofList] at hsmall

/-- Capitalizing a legal identifier changes it only if a small letter comes first. -/
theorem capitalize_eq_self_iff (h : IsLegal name) :
    capitalize name.toList = name.toList ↔ ¬ StartsSmall name.toList := by
  obtain ⟨first, rest, hname, -, hcapitalize⟩ := h.exists_capitalize_eq
  rw [hcapitalize, hname, List.cons.injEq, and_iff_left rfl, toUpper_eq_self_iff]
  constructor
  · rintro hlower ⟨small, others, heq, hsmall⟩
    rw [(List.cons.inj heq).1] at hlower
    exact hlower hsmall
  · exact fun hnot hlower => hnot ⟨first, rest, rfl, hlower⟩

end IsLegal

/-! ## Identifiers of classes -/

theorem isLegal_typeIdentifier (name : String) : IsLegal (language.typeIdentifier name) :=
  isLegal_sanitize (capitalize name.toList)

/-- An identifier of a class that is made of a legal one is this one capitalized. -/
theorem IsLegal.typeIdentifier_eq {name : String} (h : IsLegal name) :
    language.typeIdentifier name = String.ofList (capitalize name.toList) :=
  congrArg String.ofList (sanitize_eq_self_iff.mpr h.isLegal_capitalize)

/-- An identifier of a class stays as it is exactly if no small letter comes first. -/
theorem IsLegal.typeIdentifier_eq_self_iff {name : String} (h : IsLegal name) :
    language.typeIdentifier name = name ↔ ¬ StartsSmall name.toList := by
  rw [h.typeIdentifier_eq, ← h.capitalize_eq_self_iff, ← String.toList_inj, String.toList_ofList]

/-- A small letter comes first in the identifier of a class exactly if it is uncovered in the name
of the model and no reserved word is kept of this. -/
theorem startsSmall_typeIdentifier_iff {name : String} :
    StartsSmall (language.typeIdentifier name).toList ↔
      UncoversSmall name.toList ∧
        String.ofList (kept (capitalize name.toList)) ∉ reservedWords := by
  change StartsSmall (String.ofList (sanitize (capitalize name.toList))).toList ↔ _
  rw [String.toList_ofList, startsSmall_sanitize_iff, startsSmall_kept_capitalize_iff]

end TypeScript

/-- **Identifiers of classes made once more**: in C# they stay as they are. In TypeScript they are
capitalized, and then stay as they are. They change exactly if a small letter comes first in them,
which is so if it is uncovered in the name of the model, unless a reserved word is kept of this. -/
theorem typeIdentifier_again (name : String) :
    CSharp.language.typeIdentifier (CSharp.language.typeIdentifier name) =
        CSharp.language.typeIdentifier name ∧
      TypeScript.language.typeIdentifier (TypeScript.language.typeIdentifier name) =
        String.ofList (capitalize (TypeScript.language.typeIdentifier name).toList) ∧
      TypeScript.language.typeIdentifier
          (TypeScript.language.typeIdentifier (TypeScript.language.typeIdentifier name)) =
        TypeScript.language.typeIdentifier (TypeScript.language.typeIdentifier name) ∧
      (TypeScript.language.typeIdentifier (TypeScript.language.typeIdentifier name) =
          TypeScript.language.typeIdentifier name ↔
        ¬ TypeScript.StartsSmall (TypeScript.language.typeIdentifier name).toList) ∧
      (TypeScript.StartsSmall (TypeScript.language.typeIdentifier name).toList ↔
        TypeScript.UncoversSmall name.toList ∧
          String.ofList (TypeScript.kept (capitalize name.toList)) ∉ TypeScript.reservedWords) := by
  have hlegal := TypeScript.isLegal_typeIdentifier name
  refine ⟨?_, hlegal.typeIdentifier_eq, ?_, hlegal.typeIdentifier_eq_self_iff,
    TypeScript.startsSmall_typeIdentifier_iff⟩
  · change String.ofList (CSharp.safeIdentifier
      (String.ofList (CSharp.safeIdentifier name.toList)).toList) = _
    rw [String.toList_ofList, CSharp.safeIdentifier_safeIdentifier]
    rfl
  · rw [(TypeScript.isLegal_typeIdentifier _).typeIdentifier_eq_self_iff, hlegal.typeIdentifier_eq,
      String.toList_ofList]
    exact hlegal.not_startsSmall_capitalize

/-- Behind a hyphen the letter in front is not capitalized the first time. -/
theorem typeIdentifier_again_hyphenInFront :
    TypeScript.language.typeIdentifier "-pet" = "pet" ∧
      TypeScript.language.typeIdentifier "pet" = "Pet" ∧
      TypeScript.language.typeIdentifier (TypeScript.language.typeIdentifier "-pet") ≠
        TypeScript.language.typeIdentifier "-pet" := by
  decide +kernel

end Stencil
