import Stencil.Language.CSharp
import Stencil.Language.TypeScript
import Stencil.Proofs.Language.Identifiers

/-!
# Legal identifiers

An identifier of TypeScript starts with a letter, an underscore or a dollar sign, goes on with
these or digits, and is no reserved word. One of C# holds alphanumeric characters and
underscores behind at most one `@`, starts with no digit, and is no keyword. Whatever a name looks
like, what is made of it is such an identifier, and it stays one when a number is put behind it:
reserved words hold no digits.

## Main definitions

* `TypeScript.IsLegal name`, `CSharp.IsLegal name`: a name is a legal identifier

## Main results

* `TypeScript.isLegal_sanitize`, `CSharp.isLegal_safeIdentifier`: what is made of a name is legal
* `TypeScript.IsLegal.numbered`, `CSharp.IsLegal.numbered`: so is a legal name with a number
  behind it
-/

namespace Stencil

open Naming

/-! ## TypeScript -/

namespace TypeScript

/-- A name that can stand where an identifier is declared. -/
structure IsLegal (name : String) : Prop where
  starts : ∃ first rest, name.toList = first :: rest ∧ isIdentifierStart first = true
  chars : ∀ c ∈ name.toList, isIdentifierChar c = true
  notReserved : name ∉ reservedWords

theorem isIdentifierChar_of_isDigit {c : Char} (h : c.isDigit = true) :
    isIdentifierChar c = true := by
  simp [isIdentifierChar, Char.isAlphanum, h]

theorem isIdentifierChar_of_isIdentifierStart {c : Char} (h : isIdentifierStart c = true) :
    isIdentifierChar c = true := by
  unfold isIdentifierStart at h
  unfold isIdentifierChar Char.isAlphanum
  simp only [Bool.or_eq_true] at h ⊢
  tauto

/-- An identifier character that is no digit may come first. -/
theorem isIdentifierStart_of_not_isDigit {c : Char} (hc : isIdentifierChar c = true)
    (hdigit : ¬ c.isDigit = true) : isIdentifierStart c = true := by
  simpa [isIdentifierChar, isIdentifierStart, Char.isAlphanum, hdigit] using hc

theorem not_isDigit_of_isIdentifierStart {c : Char} (h : isIdentifierStart c = true) :
    ¬ c.isDigit = true := by
  intro hdigit
  refine Text.forall_isDigit (P := fun c => ¬ isIdentifierStart c = true) ?_ hdigit h
  decide

/-! ### Reserved words -/

theorem not_isDigit_of_mem_reservedWords {word : String} (h : word ∈ reservedWords) :
    ∀ c ∈ word.toList, ¬ c.isDigit = true := by
  have hwords : (reservedWords.all fun word => word.toList.all fun c => !c.isDigit) = true := by
    decide +kernel
  intro c hc
  have hdigit := List.all_eq_true.mp (List.all_eq_true.mp hwords word h) c hc
  simpa using hdigit

theorem head_ne_underscore_of_mem_reservedWords {word : String} (h : word ∈ reservedWords) :
    word.toList.head? ≠ some '_' := by
  have hwords : (reservedWords.all fun word => word.toList.head? != some '_') = true := by
    decide +kernel
  simpa using List.all_eq_true.mp hwords word h

/-! ### Legal names -/

/-- A digit behind a legal name makes no reserved word of it. -/
theorem IsLegal.numbered {name : String} (h : IsLegal name) (n : Nat) :
    IsLegal (Scope.numbered name n) := by
  cases n with
  | zero => exact h
  | succ n =>
    obtain ⟨first, rest, hname, hfirst⟩ := h.starts
    have hdigit : ∀ c ∈ Nat.toDigits 10 (n + 1), c.isDigit = true := fun c hc =>
      Nat.isDigit_of_mem_toDigits (by decide) (by decide) hc
    have hsome : Nat.toDigits 10 (n + 1) ≠ [] := Nat.toDigits_ne_nil
    refine ⟨⟨first, rest ++ Nat.toDigits 10 (n + 1), ?_, hfirst⟩, ?_, ?_⟩
    · rw [Scope.toList_numbered_succ, hname, List.cons_append]
    · intro c hc
      rw [Scope.toList_numbered_succ] at hc
      rcases List.mem_append.mp hc with hc | hc
      · exact h.chars c hc
      · exact isIdentifierChar_of_isDigit (hdigit c hc)
    · intro hreserved
      obtain ⟨digit, hmem⟩ := List.exists_mem_of_ne_nil _ hsome
      refine not_isDigit_of_mem_reservedWords hreserved digit ?_ (hdigit digit hmem)
      rw [Scope.toList_numbered_succ]
      exact List.mem_append_right _ hmem

/-- Behind an underscore there is room for a digit. -/
theorem exists_guardDigit {kept : List Char} (hkept : kept ≠ [])
    (hchars : ∀ c ∈ kept, isIdentifierChar c = true) :
    ∃ first rest, guardDigit kept = first :: rest ∧ isIdentifierStart first = true := by
  cases kept with
  | nil => exact absurd rfl hkept
  | cons c rest =>
    by_cases hdigit : c.isDigit = true
    · exact ⟨'_', c :: rest, by rw [guardDigit, if_pos hdigit], by decide⟩
    · refine ⟨c, rest, by rw [guardDigit, if_neg hdigit], ?_⟩
      exact isIdentifierStart_of_not_isDigit (hchars c List.mem_cons_self) hdigit

/-- The check for reserved words comes last: an underscore in front of one makes a legal name,
since no reserved word starts with an underscore. -/
theorem isLegal_escapeReserved {name : List Char}
    (hstarts : ∃ first rest, name = first :: rest ∧ isIdentifierStart first = true)
    (hchars : ∀ c ∈ name, isIdentifierChar c = true) :
    IsLegal (String.ofList (escapeReserved name)) := by
  have hescaped := isIdentifierChar_of_mem_escapeReserved hchars
  by_cases hreserved : reservedWords.contains (String.ofList name) = true
  · have heq : escapeReserved name = '_' :: name := by rw [escapeReserved, if_pos hreserved]
    rw [heq] at hescaped ⊢
    refine ⟨⟨'_', name, String.toList_ofList, by decide⟩, ?_, ?_⟩
    · rwa [String.toList_ofList]
    · intro hmem
      exact head_ne_underscore_of_mem_reservedWords hmem (by rw [String.toList_ofList]; rfl)
  · have heq : escapeReserved name = name := by rw [escapeReserved, if_neg hreserved]
    rw [heq]
    refine ⟨?_, ?_, ?_⟩
    · rwa [String.toList_ofList]
    · rwa [String.toList_ofList]
    · exact fun hmem => hreserved (List.contains_iff_mem.mpr hmem)

/-- **What is made of a name** is a legal identifier. -/
theorem isLegal_sanitize (name : List Char) : IsLegal (String.ofList (sanitize name)) := by
  have hchars : ∀ c ∈ (joinParts (Text.piecesWhere isPartSeparator name)).filter isIdentifierChar,
      isIdentifierChar c = true := fun c hc => (List.mem_filter.mp hc).2
  unfold sanitize
  split
  · -- Nothing is left of the name.
    exact ⟨⟨'_', "empty".toList, by decide, by decide⟩, List.all_eq_true.mp (by decide),
      by decide⟩
  · rename_i kept hkept
    exact isLegal_escapeReserved (exists_guardDigit hkept hchars)
      (isIdentifierChar_of_mem_guardDigit hchars)

end TypeScript

/-! ## C# -/

namespace CSharp

/-- A name that can stand where an identifier is declared: behind at most one `@` there are
identifier characters, of which the first is no digit, and the name as a whole is no keyword. -/
structure IsLegal (name : String) : Prop where
  starts : ∃ first rest, bareChars name.toList = first :: rest ∧ ¬ first.isDigit = true
  chars : ∀ c ∈ bareChars name.toList, isIdentifierChar c = true
  notKeyword : name ∉ keywords

theorem isIdentifierChar_of_isDigit {c : Char} (h : c.isDigit = true) :
    isIdentifierChar c = true := by
  apply @Text.forall_isDigit (fun c => isIdentifierChar c = true) _ c h
  decide

/-! ### Keywords -/

theorem isLower_of_mem_keywords {word : String} (h : word ∈ keywords) :
    ∀ c ∈ word.toList, c.isLower = true := by
  have hwords : (keywords.all fun word => word.toList.all Char.isLower) = true := by
    decide +kernel
  exact List.all_eq_true.mp (List.all_eq_true.mp hwords word h)

theorem not_isLower_of_isDigit {c : Char} (h : c.isDigit = true) : ¬ c.isLower = true := by
  apply Text.forall_isDigit _ h
  decide

/-- A keyword has a first character, and this is no digit. -/
theorem exists_of_isKeyword {name : List Char} (h : isKeyword name = true) :
    ∃ first rest, name = first :: rest ∧ ¬ first.isDigit = true := by
  have hmem : String.ofList name ∈ keywords := List.contains_iff_mem.mp h
  cases name with
  | nil => exact absurd hmem (by decide)
  | cons first rest =>
    have hlower := isLower_of_mem_keywords hmem first (by simp)
    exact ⟨first, rest, rfl, fun hdigit => not_isLower_of_isDigit hdigit hlower⟩

/-! ### Legal names -/

theorem IsLegal.ne_nil {name : String} (h : IsLegal name) : name.toList ≠ [] := by
  obtain ⟨first, rest, hname, -⟩ := h.starts
  exact List.ne_nil_of_mem (mem_of_mem_bareChars (hname ▸ List.mem_cons_self))

/-- No keyword holds anything but lower case letters, so that a legal name stays one when
identifier characters of which one is something else are put behind it. -/
theorem IsLegal.append {name behind : String} (h : IsLegal name)
    (hchars : ∀ c ∈ behind.toList, isIdentifierChar c = true)
    (hlower : ∃ c ∈ behind.toList, ¬ c.isLower = true) : IsLegal (name ++ behind) := by
  obtain ⟨first, rest, hname, hfirst⟩ := h.starts
  have hbare : bareChars (name ++ behind).toList = bareChars name.toList ++ behind.toList := by
    rw [String.toList_append, bareChars_append_of_ne_nil h.ne_nil]
  refine ⟨⟨first, rest ++ behind.toList, ?_, hfirst⟩, ?_, ?_⟩
  · rw [hbare, hname, List.cons_append]
  · intro c hc
    rw [hbare] at hc
    exact (List.mem_append.mp hc).elim (h.chars c) (hchars c)
  · intro hkeyword
    obtain ⟨c, hc, hnotLower⟩ := hlower
    refine hnotLower (isLower_of_mem_keywords hkeyword c ?_)
    rw [String.toList_append]
    exact List.mem_append_right _ hc

/-- A number behind a legal name makes no keyword of it. -/
theorem IsLegal.numbered {name : String} (h : IsLegal name) (n : Nat) :
    IsLegal (Scope.numbered name n) := by
  cases n with
  | zero => exact h
  | succ n =>
    have hdigit : ∀ c ∈ (toString (n + 1)).toList, c.isDigit = true := by
      rw [Nat.toString_eq_repr, Nat.toList_repr]
      exact fun c hc => Nat.isDigit_of_mem_toDigits (by decide) (by decide) hc
    have hsome : (toString (n + 1)).toList ≠ [] := by
      rw [Nat.toString_eq_repr, Nat.toList_repr]
      exact Nat.toDigits_ne_nil
    obtain ⟨digit, hmem⟩ := List.exists_mem_of_ne_nil _ hsome
    exact h.append (fun c hc => isIdentifierChar_of_isDigit (hdigit c hc))
      ⟨digit, hmem, not_isLower_of_isDigit (hdigit digit hmem)⟩

/-- An `@` in front of a keyword makes a legal name, and what is no keyword needs none. -/
theorem isLegal_escapeKeyword {name : List Char}
    (hstarts : ∃ first rest, name = first :: rest ∧ ¬ first.isDigit = true)
    (hchars : ∀ c ∈ name, isIdentifierChar c = true) :
    IsLegal (String.ofList (escapeKeyword name)) := by
  by_cases hkeyword : isKeyword name = true
  · have heq : escapeKeyword name = '@' :: name := if_pos hkeyword
    have hbare : bareChars (String.ofList ('@' :: name)).toList = name := by
      rw [String.toList_ofList]
      rfl
    rw [heq]
    refine ⟨hbare.symm ▸ hstarts, hbare.symm ▸ hchars, fun hmem => ?_⟩
    exact absurd (isLower_of_mem_keywords hmem '@' (by simp)) (by decide)
  · have heq : escapeKeyword name = name := if_neg hkeyword
    have hbare : bareChars (String.ofList name).toList = name := by
      rw [String.toList_ofList]
      refine bareChars_of_forall_ne fun c hc => ?_
      rintro rfl
      exact absurd (hchars '@' hc) (by decide)
    rw [heq]
    refine ⟨hbare.symm ▸ hstarts, hbare.symm ▸ hchars, fun hmem => ?_⟩
    exact hkeyword (List.contains_iff_mem.mpr hmem)

/-- **What is made of a name** is a legal identifier. -/
theorem isLegal_safeIdentifier (name : List Char) :
    IsLegal (String.ofList (safeIdentifier name)) := by
  rcases exists_or_safeIdentifier_eq name with ⟨rest, hname, hkeyword, heq⟩ | heq
  · -- A keyword that comes with its `@` is left as it would be escaped.
    have hescaped : escapeKeyword rest = '@' :: rest := if_pos hkeyword
    rw [heq, hname, ← hescaped]
    exact isLegal_escapeKeyword (exists_of_isKeyword hkeyword)
      (isIdentifierChar_of_isKeyword hkeyword)
  · rw [heq]
    exact isLegal_escapeKeyword (exists_replaceIllegal isIdentifierChar name)
      fun c hc => isIdentifierChar_of_mem_replaceIllegal hc

theorem isLegal_casedIdentifier (casing : List Char → List Char) (name : List Char) :
    IsLegal (String.ofList (casedIdentifier casing name)) := by
  unfold casedIdentifier
  split
  · exact isLegal_safeIdentifier name
  · exact isLegal_safeIdentifier (casing name)

/-- The ending of a property that would have the name of its class keeps it legal. -/
theorem isLegal_propertyIdentifier (jsonName owner : List Char) :
    IsLegal (String.ofList (propertyIdentifier jsonName owner)) := by
  have hlegal := isLegal_casedIdentifier pascalCase jsonName
  by_cases howner : casedIdentifier pascalCase jsonName = fileStem owner
  · have heq : propertyIdentifier jsonName owner =
        casedIdentifier pascalCase jsonName ++ "Value".toList := if_pos howner
    rw [heq, String.ofList_append, String.ofList_toList]
    exact hlegal.append (List.all_eq_true.mp (by decide)) ⟨'V', by decide, by decide⟩
  · have heq : propertyIdentifier jsonName owner = casedIdentifier pascalCase jsonName :=
      if_neg howner
    rwa [heq]

/-! ### Verbatim identifiers -/

/-- Behind an `@` there is a keyword. -/
theorem isKeyword_of_safeIdentifier {name rest : List Char}
    (h : safeIdentifier name = '@' :: rest) : isKeyword rest = true := by
  rcases exists_or_safeIdentifier_eq name with ⟨behind, hname, hkeyword, heq⟩ | heq
  · rwa [← (List.cons.inj ((heq.trans hname).symm.trans h)).2]
  · rw [heq] at h
    unfold escapeKeyword at h
    split at h
    · rename_i hkeyword
      rwa [(List.cons.inj h).2] at hkeyword
    · have hat : '@' ∈ replaceIllegal isIdentifierChar name := h ▸ List.mem_cons_self
      exact absurd (isIdentifierChar_of_mem_replaceIllegal hat) (by decide)

theorem isKeyword_of_casedIdentifier {casing : List Char → List Char} {name rest : List Char}
    (h : casedIdentifier casing name = '@' :: rest) : isKeyword rest = true := by
  unfold casedIdentifier at h
  split at h
  · exact isKeyword_of_safeIdentifier h
  · exact isKeyword_of_safeIdentifier h

end CSharp

end Stencil
