import Stencil.Client.Registry
import Stencil.Proofs.Naming.Scope

/-!
# Identifiers of classes

The identifier of a class holds identifier characters only, but for the one `@` that C# puts in
front of a keyword. That `@` is all that tells the name of a class from the name of its file,
with or without a number behind.

## Main definitions

* `bare name`: a name without an `@` in front
* `Language.NamesFiles`: the file of a class has the bare name of the class

## Main results

* `CSharp.namesFiles`, `TypeScript.namesFiles`: both languages name files so
* `Registry.namesFiles_of_resolve`: so does every language that comes with the generator
-/

namespace Stencil

open Naming

namespace Naming

theorem mem_replaceIllegal {allowed : Char → Bool} {name : List Char} {c : Char}
    (h : c ∈ replaceIllegal allowed name) : allowed c = true ∨ c = '_' := by
  have hmapped : ∀ c ∈ name.map (fun c => if allowed c then c else '_'),
      allowed c = true ∨ c = '_' := by
    intro c hc
    obtain ⟨d, -, rfl⟩ := List.mem_map.mp hc
    by_cases hd : allowed d = true <;> simp [hd]
  unfold replaceIllegal at h
  split at h
  · exact Or.inr (List.mem_singleton.mp h)
  · rename_i first rest hname
    rw [hname] at hmapped
    split at h
    · rcases List.mem_cons.mp h with rfl | h
      · exact Or.inr rfl
      · exact hmapped c h
    · exact hmapped c h

/-- What replacing leaves is never empty and never starts with a digit. -/
theorem exists_replaceIllegal (allowed : Char → Bool) (name : List Char) :
    ∃ first rest, replaceIllegal allowed name = first :: rest ∧ ¬ first.isDigit = true := by
  unfold replaceIllegal
  split
  · exact ⟨'_', [], rfl, by decide⟩
  · rename_i first rest hname
    by_cases hdigit : first.isDigit = true
    · exact ⟨'_', first :: rest, if_pos hdigit, by decide⟩
    · exact ⟨first, rest, if_neg hdigit, hdigit⟩

end Naming

/-! ## C# -/

namespace CSharp

theorem isIdentifierChar_underscore : isIdentifierChar '_' = true := by decide

theorem isIdentifierChar_of_mem_replaceIllegal {name : List Char} {c : Char}
    (h : c ∈ replaceIllegal isIdentifierChar name) : isIdentifierChar c = true := by
  rcases mem_replaceIllegal h with h | rfl
  · exact h
  · exact isIdentifierChar_underscore

/-- A keyword holds lower case letters only. -/
theorem isIdentifierChar_of_isKeyword {name : List Char} (h : isKeyword name = true) :
    ∀ c ∈ name, isIdentifierChar c = true := by
  have hkeywords : (keywords.all fun keyword => keyword.toList.all isIdentifierChar) = true := by
    decide +kernel
  have hname := List.all_eq_true.mp hkeywords _ (List.contains_iff_mem.mp h)
  rw [String.toList_ofList] at hname
  exact List.all_eq_true.mp hname

/-- A keyword behind an `@` stays as it is, and in any other name the illegal characters are
replaced. -/
theorem exists_or_safeIdentifier_eq (name : List Char) :
    (∃ rest, name = '@' :: rest ∧ isKeyword rest = true ∧ safeIdentifier name = name) ∨
      safeIdentifier name = escapeKeyword (replaceIllegal isIdentifierChar name) := by
  unfold safeIdentifier
  split
  · rename_i rest
    by_cases hkeyword : isKeyword rest = true
    · exact Or.inl ⟨rest, rfl, hkeyword, if_pos hkeyword⟩
    · exact Or.inr (if_neg hkeyword)
  · exact Or.inr rfl

/-- A legal identifier is made of identifier characters, behind an `@` if it is a keyword. -/
theorem safeIdentifier_cases (name : List Char) :
    ∃ rest : List Char, (∀ c ∈ rest, isIdentifierChar c = true) ∧
      (safeIdentifier name = rest ∨ safeIdentifier name = '@' :: rest) := by
  rcases exists_or_safeIdentifier_eq name with ⟨rest, hname, hkeyword, heq⟩ | heq
  · exact ⟨rest, isIdentifierChar_of_isKeyword hkeyword, Or.inr (heq.trans hname)⟩
  · refine ⟨replaceIllegal isIdentifierChar name,
      fun c hc => isIdentifierChar_of_mem_replaceIllegal hc, ?_⟩
    rw [heq, escapeKeyword]
    split
    · exact Or.inr rfl
    · exact Or.inl rfl

end CSharp

/-! ## TypeScript -/

namespace TypeScript

theorem isIdentifierChar_underscore : isIdentifierChar '_' = true := by decide

theorem isIdentifierChar_of_mem_guardDigit {name : List Char}
    (hname : ∀ c ∈ name, isIdentifierChar c = true) :
    ∀ c ∈ guardDigit name, isIdentifierChar c = true := by
  cases name with
  | nil => simp [guardDigit]
  | cons first rest =>
    simp only [guardDigit]
    split
    · exact List.forall_mem_cons.mpr ⟨isIdentifierChar_underscore, hname⟩
    · exact hname

theorem isIdentifierChar_of_mem_escapeReserved {name : List Char}
    (hname : ∀ c ∈ name, isIdentifierChar c = true) :
    ∀ c ∈ escapeReserved name, isIdentifierChar c = true := by
  unfold escapeReserved
  split
  · exact List.forall_mem_cons.mpr ⟨isIdentifierChar_underscore, hname⟩
  · exact hname

/-- A legal identifier is made of identifier characters. -/
theorem isIdentifierChar_of_mem_sanitize (name : List Char) :
    ∀ c ∈ sanitize name, isIdentifierChar c = true := by
  have hkept : ∀ c ∈ (joinParts (Text.piecesWhere isPartSeparator name)).filter isIdentifierChar,
      isIdentifierChar c = true := fun c hc => (List.mem_filter.mp hc).2
  unfold sanitize
  split
  · exact List.all_eq_true.mp (by decide)
  · exact isIdentifierChar_of_mem_escapeReserved (isIdentifierChar_of_mem_guardDigit hkept)

end TypeScript

/-! ## Names of classes and of their files -/

/-- The characters of a name without an `@` in front. -/
def bareChars : List Char → List Char
  | '@' :: rest => rest
  | name => name

/-- A name without an `@` in front. -/
def bare (name : String) : String := String.ofList (bareChars name.toList)

theorem bareChars_of_forall_ne {name : List Char} (h : ∀ c ∈ name, c ≠ '@') :
    bareChars name = name := by
  unfold bareChars
  split
  · exact absurd rfl (h '@' List.mem_cons_self)
  · rfl

theorem mem_of_mem_bareChars {name : List Char} {c : Char} (h : c ∈ bareChars name) :
    c ∈ name := by
  unfold bareChars at h
  split at h
  · exact List.mem_cons_of_mem '@' h
  · exact h

theorem bareChars_append_of_ne_nil {name : List Char} (h : name ≠ []) (rest : List Char) :
    bareChars (name ++ rest) = bareChars name ++ rest := by
  cases name with
  | nil => exact absurd rfl h
  | cons c cs =>
    by_cases hc : c = '@'
    · subst hc
      rfl
    · simp [bareChars, hc]

theorem bareChars_append {name : List Char} (digits : List Char)
    (hdigits : ∀ d ∈ digits, d.isDigit = true) :
    bareChars (name ++ digits) = bareChars name ++ digits := by
  cases name with
  | nil =>
    refine bareChars_of_forall_ne fun d hd => ?_
    rintro rfl
    exact absurd (hdigits '@' hd) (by decide)
  | cons c rest => exact bareChars_append_of_ne_nil (List.cons_ne_nil c rest) digits

/-- The bare form of a numbered name is the numbered bare name. -/
theorem bare_numbered (name : String) (n : Nat) :
    bare (Scope.numbered name n) = Scope.numbered (bare name) n := by
  obtain ⟨digits, hdigits, hname⟩ := Scope.exists_digits n
  rw [← String.toList_inj, hname, bare, hname, bareChars_append digits hdigits]
  simp [bare]

namespace Language

/-- A language in which the file of a class has the bare name of the class, also with a number
behind, and in which the name of a class holds no slash. -/
structure NamesFiles (language : Language) : Prop where
  fileStem_numbered : ∀ model n,
    language.fileStem (Scope.numbered (language.typeIdentifier model) n) =
      bare (Scope.numbered (language.typeIdentifier model) n)
  slash_notMem : ∀ model, '/' ∉ (language.typeIdentifier model).toList

namespace NamesFiles

variable {language : Language}

theorem fileStem_typeIdentifier (h : language.NamesFiles) (model : String) :
    language.fileStem (language.typeIdentifier model) = bare (language.typeIdentifier model) :=
  h.fileStem_numbered model 0

end NamesFiles

end Language

theorem CSharp.fileStem_of_forall_ne {name : List Char} (h : ∀ c ∈ name, c ≠ '@') :
    CSharp.fileStem name = name := by
  cases name with
  | nil => rfl
  | cons c rest => simp [CSharp.fileStem, h c List.mem_cons_self]

theorem CSharp.fileStem_at_cons {name : List Char} (h : ∀ c ∈ name, c ≠ '@') :
    CSharp.fileStem ('@' :: name) = name := by
  have hdrop : CSharp.fileStem ('@' :: name) = CSharp.fileStem name := rfl
  rw [hdrop, CSharp.fileStem_of_forall_ne h]

/-- A number behind an identifier brings no further `@` with it. -/
theorem CSharp.namesFiles : CSharp.language.NamesFiles where
  fileStem_numbered model n := by
    obtain ⟨digits, hdigits, hname⟩ := Scope.exists_digits n
    obtain ⟨rest, hrest, hcases⟩ := CSharp.safeIdentifier_cases model.toList
    have hplain : ∀ c ∈ rest ++ digits, c ≠ '@' := by
      rintro c hc rfl
      rcases List.mem_append.mp hc with hc | hc
      · exact absurd (hrest '@' hc) (by decide)
      · exact absurd (hdigits '@' hc) (by decide)
    change String.ofList (CSharp.fileStem
      (Scope.numbered (String.ofList (CSharp.safeIdentifier model.toList)) n).toList) =
        String.ofList (bareChars
          (Scope.numbered (String.ofList (CSharp.safeIdentifier model.toList)) n).toList)
    rw [hname, String.toList_ofList]
    rcases hcases with hcases | hcases
    · rw [hcases, CSharp.fileStem_of_forall_ne hplain, bareChars_of_forall_ne hplain]
    · rw [hcases, List.cons_append, CSharp.fileStem_at_cons hplain]
      rfl
  slash_notMem model := by
    obtain ⟨rest, hrest, hcases⟩ := CSharp.safeIdentifier_cases model.toList
    have hslash : '/' ∉ rest := fun hmem => absurd (hrest '/' hmem) (by decide)
    change '/' ∉ (String.ofList (CSharp.safeIdentifier model.toList)).toList
    rw [String.toList_ofList]
    rcases hcases with hcases | hcases
    · rwa [hcases]
    · rw [hcases]
      exact List.not_mem_cons_of_ne_of_not_mem (by decide) hslash

theorem TypeScript.namesFiles : TypeScript.language.NamesFiles where
  fileStem_numbered model n := by
    obtain ⟨digits, hdigits, hname⟩ := Scope.exists_digits n
    have hchars := TypeScript.isIdentifierChar_of_mem_sanitize (capitalize model.toList)
    have hplain : ∀ c ∈ TypeScript.sanitize (capitalize model.toList) ++ digits, c ≠ '@' := by
      rintro c hc rfl
      rcases List.mem_append.mp hc with hc | hc
      · exact absurd (hchars '@' hc) (by decide)
      · exact absurd (hdigits '@' hc) (by decide)
    change Scope.numbered (String.ofList (TypeScript.sanitize (capitalize model.toList))) n = bare
      (Scope.numbered (String.ofList (TypeScript.sanitize (capitalize model.toList))) n)
    rw [← String.toList_inj, bare, hname, String.toList_ofList, String.toList_ofList,
      bareChars_of_forall_ne hplain]
  slash_notMem model := by
    change '/' ∉ (String.ofList (TypeScript.sanitize (capitalize model.toList))).toList
    rw [String.toList_ofList]
    intro hmem
    exact absurd (TypeScript.isIdentifierChar_of_mem_sanitize _ '/' hmem) (by decide)

namespace Registry

theorem entries_builtin :
    builtin.entries = [("c#", CSharp.language), ("typescript", TypeScript.language)] := by
  have hlt : ¬ "typescript" < "c#" := by decide
  have hne : ¬ "typescript" = "c#" := by decide
  simp [builtin, register, Keyed.set, hlt]

theorem eq_of_resolve_builtin {key : String} {language : Language}
    (h : builtin.resolve key = .ok language) :
    language = CSharp.language ∨ language = TypeScript.language := by
  unfold resolve at h
  split at h
  · rename_i found hfound
    obtain rfl : found = language := Except.ok.inj h
    have hmem := mem_of_lookup_eq_some hfound
    rw [entries_builtin] at hmem
    rcases List.mem_cons.mp hmem with hcsharp | htypescript
    · exact Or.inl (Prod.mk.inj hcsharp).2
    · exact Or.inr (Prod.mk.inj (List.mem_singleton.mp htypescript)).2
  · cases h

/-- Every language that comes with the generator names files so. -/
theorem namesFiles_of_resolve {key : String} {language : Language}
    (h : builtin.resolve key = .ok language) : language.NamesFiles := by
  rcases eq_of_resolve_builtin h with rfl | rfl
  · exact CSharp.namesFiles
  · exact TypeScript.namesFiles

end Registry

end Stencil
