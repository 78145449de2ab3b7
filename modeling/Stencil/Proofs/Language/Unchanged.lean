import Stencil.Proofs.Language.Parts

/-!
# Names that are identifiers already

A legal identifier is left as it is, and nothing else is. As what is made of a name is legal, making
an identifier of it once more changes nothing. An `@` in front is kept for keywords only, which are
the only identifiers that need it.

## Main results

* `CSharp.safeIdentifier_eq_self_iff`, `TypeScript.sanitize_eq_self_iff`: the names that stay as
  they are
* `CSharp.safeIdentifier_eq_self_of_notMem`: an identifier without underscore and `@` is the name
  it is made of
* `identifiers_stay`: identifiers stay as they are
-/

namespace Stencil

open Naming

namespace Naming

variable {allowed : Char → Bool} {name : List Char}

theorem map_underscore_eq_self (h : ∀ c ∈ name, allowed c = true) :
    (name.map fun c => if allowed c then c else '_') = name := by
  rw [List.map_congr_left fun c hc => if_pos (h c hc), List.map_id']

theorem replaceIllegal_eq_self (h : ∀ c ∈ name, allowed c = true)
    (hstarts : ∃ first rest, name = first :: rest ∧ ¬ first.isDigit = true) :
    replaceIllegal allowed name = name := by
  obtain ⟨first, rest, rfl, hfirst⟩ := hstarts
  unfold replaceIllegal
  rw [map_underscore_eq_self h]
  exact if_neg hfirst

/-- What is left out of a name has an underscore in its place. -/
theorem replaceIllegal_eq_self_of_notMem (h : '_' ∉ replaceIllegal allowed name) :
    replaceIllegal allowed name = name := by
  have hallowed : '_' ∉ name.map (fun c => if allowed c then c else '_') →
      ∀ c ∈ name, allowed c = true := by
    intro hmapped c hc
    by_contra hillegal
    exact hmapped (List.mem_map.mpr ⟨c, hc, if_neg hillegal⟩)
  unfold replaceIllegal at h ⊢
  split at h
  · exact absurd (List.mem_singleton.mpr rfl) h
  · rename_i first rest hname
    split at h
    · exact absurd List.mem_cons_self h
    · rename_i hfirst
      rw [← hname] at h
      rw [if_neg hfirst, ← hname, map_underscore_eq_self (hallowed h)]

end Naming

/-! ## C# -/

namespace CSharp

theorem escapeKeyword_eq_self {name : List Char} (h : String.ofList name ∉ keywords) :
    escapeKeyword name = name :=
  if_neg fun hkeyword => h (List.contains_iff_mem.mp hkeyword)

/-- **Names that stay as they are** in C# are the legal identifiers, those with an `@` only if a
keyword follows. -/
theorem safeIdentifier_eq_self_iff {name : List Char} :
    safeIdentifier name = name ↔
      IsLegal (String.ofList name) ∧ ∀ rest, name = '@' :: rest → isKeyword rest = true := by
  constructor
  · intro h
    refine ⟨h ▸ isLegal_safeIdentifier name, ?_⟩
    rintro rest rfl
    exact isKeyword_of_safeIdentifier h
  · rintro ⟨⟨hstarts, hchars, hkeyword⟩, hverbatim⟩
    rcases exists_or_safeIdentifier_eq name with ⟨-, -, -, heq⟩ | heq
    · exact heq
    -- An `@` in front is taken away unless a keyword follows.
    by_cases hat : ∃ rest, name = '@' :: rest
    · obtain ⟨rest, rfl⟩ := hat
      exact if_pos (hverbatim rest rfl)
    · have hbare : bareChars name = name := bareChars.eq_2 name fun rest h => hat ⟨rest, h⟩
      rw [String.toList_ofList, hbare] at hstarts hchars
      rw [heq, replaceIllegal_eq_self hchars hstarts, escapeKeyword_eq_self hkeyword]

theorem safeIdentifier_safeIdentifier (name : List Char) :
    safeIdentifier (safeIdentifier name) = safeIdentifier name :=
  safeIdentifier_eq_self_iff.mpr
    ⟨isLegal_safeIdentifier name, fun _ h => isKeyword_of_safeIdentifier h⟩

/-- An identifier without underscore and `@` is the name it is made of. -/
theorem safeIdentifier_eq_self_of_notMem {name : List Char} (hunderscore : '_' ∉ safeIdentifier name)
    (hat : '@' ∉ safeIdentifier name) : safeIdentifier name = name := by
  rcases exists_or_safeIdentifier_eq name with ⟨-, -, -, heq⟩ | heq
  · exact heq
  · rw [heq] at hunderscore hat ⊢
    unfold escapeKeyword at hunderscore hat ⊢
    split at hat
    · exact absurd List.mem_cons_self hat
    · rename_i hkeyword
      rw [if_neg hkeyword] at hunderscore ⊢
      exact replaceIllegal_eq_self_of_notMem hunderscore

end CSharp

/-! ## TypeScript -/

namespace TypeScript

theorem escapeReserved_eq_self {name : List Char} (h : String.ofList name ∉ reservedWords) :
    escapeReserved name = name :=
  if_neg fun hreserved => h (List.contains_iff_mem.mp hreserved)

/-- **Names that stay as they are** in TypeScript are the legal identifiers. -/
theorem sanitize_eq_self_iff {name : List Char} :
    sanitize name = name ↔ IsLegal (String.ofList name) := by
  constructor
  · intro h
    exact h ▸ isLegal_sanitize name
  · rintro ⟨⟨first, rest, hname, hfirst⟩, hchars, hreserved⟩
    rw [String.toList_ofList] at hname hchars
    have hkept : kept name = name := kept_eq_self hchars
    have hdigit : guardDigit name = name := by
      rw [hname]
      exact if_neg (not_isDigit_of_isIdentifierStart hfirst)
    rw [sanitize_of_kept_ne_nil (by rw [hkept, hname]; exact List.cons_ne_nil first rest), hkept,
      hdigit, escapeReserved_eq_self hreserved]

theorem sanitize_sanitize (name : List Char) : sanitize (sanitize name) = sanitize name :=
  sanitize_eq_self_iff.mpr (isLegal_sanitize name)

end TypeScript

/-! ## Both languages -/

/-- **Identifiers stay as they are** when an identifier is made of them once more: what is made of
any name is legal, and the names that stay as they are are just the legal ones. In C# a name with
an `@` in front is among them only if it is a keyword apart from that. -/
theorem identifiers_stay (name : List Char) :
    CSharp.safeIdentifier (CSharp.safeIdentifier name) = CSharp.safeIdentifier name ∧
      (CSharp.safeIdentifier name = name ↔ CSharp.IsLegal (String.ofList name) ∧
        ∀ rest, name = '@' :: rest → CSharp.isKeyword rest = true) ∧
      TypeScript.sanitize (TypeScript.sanitize name) = TypeScript.sanitize name ∧
      (TypeScript.sanitize name = name ↔ TypeScript.IsLegal (String.ofList name)) :=
  ⟨CSharp.safeIdentifier_safeIdentifier name, CSharp.safeIdentifier_eq_self_iff,
    TypeScript.sanitize_sanitize name, TypeScript.sanitize_eq_self_iff⟩

end Stencil
