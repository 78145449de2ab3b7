import Stencil.Proofs.Client.LegalNames
import Stencil.Proofs.Naming.Granted

/-!
# Parameters as identifiers of C#

The `@` in front of a keyword is no part of the identifier: `@class1` and `class1` are the same
parameter. The scope of an operation tells names apart with their `@`, so that a keyword with a
number behind may meet a parameter that is called so. Only the first claim of a keyword has no
number; from the second on, each takes the next number behind the `@` and the keyword.

## Main results

* `Scope.numbered_append`: a number behind two texts is behind the second one
* `CSharp.exists_keyword_of_at_eq_numbered`: only a keyword is granted names with an `@` in front
* `CSharp.eq_at_of_numbered_eq`: a keyword behind an `@` shares no numbered name
* `Converter.nodup_bare_parameterNames_iff`: when the parameters of an operation are different
  identifiers
-/

namespace Stencil

open Naming

/-! ## Names with an `@` in front -/

theorem Naming.Scope.numbered_append (first second : String) (n : Nat) :
    Scope.numbered (first ++ second) n = first ++ Scope.numbered second n := by
  obtain ⟨digits, -, hname⟩ := Scope.exists_digits n
  rw [← String.toList_inj, hname, String.toList_append, String.toList_append, hname,
    List.append_assoc]

@[simp] theorem bare_at_append (name : String) : bare ("@" ++ name) = name := by
  rw [bare, String.toList_append]
  exact String.ofList_toList

/-- Different names that are the same without an `@` differ in the `@` only. -/
theorem eq_at_of_bare_eq {name other : String} (h : bare name = bare other)
    (hne : name ≠ other) : name = "@" ++ other ∨ other = "@" ++ name := by
  have hcases : ∀ name : String, name = bare name ∨ name = "@" ++ bare name := by
    intro name
    simp only [← String.toList_inj, String.toList_append, bare, String.toList_ofList]
    unfold bareChars
    split
    · rename_i rest hname
      exact Or.inr hname
    · exact Or.inl rfl
  -- Both have the `@` or neither has it only if they are the same.
  rcases hcases name with hname | hname <;> rcases hcases other with hother | hother
  · exact absurd (hname.trans (h.trans hother.symm)) hne
  · exact Or.inr (hother.trans (by rw [← h, ← hname]))
  · exact Or.inl (hname.trans (by rw [h, ← hother]))
  · exact absurd (hname.trans ((congrArg _ h).trans hother.symm)) hne

/-! ## Identifiers of parameters -/

namespace CSharp

theorem isLegal_parameterIdentifier (name : String) :
    IsLegal (language.parameterIdentifier name) :=
  isLegal_casedIdentifier camelCase name.toList

/-- The identifier of a parameter has an `@` in front only if the rest is a keyword. -/
theorem exists_keyword_of_head {name : String} {rest : List Char}
    (h : (language.parameterIdentifier name).toList = '@' :: rest) :
    ∃ keyword ∈ keywords, language.parameterIdentifier name = "@" ++ keyword := by
  have hcased : casedIdentifier camelCase name.toList = '@' :: rest := by
    rw [← h]
    exact String.toList_ofList.symm
  refine ⟨String.ofList rest,
    List.contains_iff_mem.mp (isKeyword_of_casedIdentifier hcased), ?_⟩
  rw [← String.toList_inj, h, String.toList_append]
  simp

theorem not_isDigit_of_mem_at_keyword {keyword : String} (h : keyword ∈ keywords) :
    ∀ c ∈ ("@" ++ keyword).toList, ¬ c.isDigit = true := by
  intro c hc
  rw [String.toList_append] at hc
  rcases List.mem_cons.mp hc with rfl | hc
  · decide
  · exact fun hdigit => not_isLower_of_isDigit hdigit (isLower_of_mem_keywords h c hc)

theorem bare_of_mem_keywords {keyword : String} (h : keyword ∈ keywords) :
    bare keyword = keyword := by
  rw [bare, bareChars_of_forall_ne, String.ofList_toList]
  rintro c hc rfl
  exact absurd (isLower_of_mem_keywords h '@' hc) (by decide)

/-- Only an escaped keyword is granted names with an `@` in front. -/
theorem exists_keyword_of_at_eq_numbered {name rest : String} {n : Nat}
    (h : "@" ++ rest = Scope.numbered (language.parameterIdentifier name) n) :
    ∃ keyword ∈ keywords, language.parameterIdentifier name = "@" ++ keyword := by
  obtain ⟨first, others, hfirst⟩ :=
    List.exists_cons_of_ne_nil (isLegal_parameterIdentifier name).ne_nil
  obtain ⟨digits, -, hname⟩ := Scope.exists_digits n
  have hat : '@' :: rest.toList = first :: (others ++ digits) := by
    rw [← List.cons_append, ← hfirst, ← hname, ← h, String.toList_append]
    rfl
  rw [← (List.cons.inj hat).1] at hfirst
  exact exists_keyword_of_head hfirst

/-- An escaped keyword shares no numbered name with the identifier of another parameter. -/
theorem eq_at_of_numbered_eq {keyword name : String} (hkeyword : keyword ∈ keywords) {m n : Nat}
    (h : Scope.numbered (language.parameterIdentifier name) m =
      Scope.numbered ("@" ++ keyword) n) :
    language.parameterIdentifier name = "@" ++ keyword := by
  obtain ⟨other, hother, heq⟩ := exists_keyword_of_at_eq_numbered
    ((Scope.numbered_append "@" keyword n).symm.trans h.symm)
  rw [heq] at h ⊢
  exact Scope.eq_of_numbered_eq (not_isDigit_of_mem_at_keyword hother)
    (not_isDigit_of_mem_at_keyword hkeyword) h

end CSharp

/-! ## Parameters of an operation -/

namespace Converter

variable {declaration : Declaration} {a : Client.ApiDescriptor} {o : Client.OperationDescriptor}

/-- The numbers with which an escaped keyword is granted are those below the number of the
parameters that claim it. -/
theorem numbered_at_mem_parameterNames_iff
    (ha : a ∈ (ready CSharp.language declaration).apis) (ho : o ∈ a.operations)
    {keyword : String} (hkeyword : keyword ∈ CSharp.keywords) {n : Nat} :
    Scope.numbered ("@" ++ keyword) n ∈ o.parameters.map (·.name) ↔
      n < (o.parameters.map fun p => CSharp.language.parameterIdentifier p.jsonName).count
        ("@" ++ keyword) := by
  rw [map_name_parameters_of_mem ha ho]
  refine Scope.numbered_mem_claimAll_iff fun other hother k m hsame => ?_
  obtain ⟨p, -, rfl⟩ := List.mem_map.mp hother
  exact CSharp.eq_at_of_numbered_eq hkeyword hsame

/-- A parameter whose name is that of another one behind an `@` has a keyword for its identifier,
and both have the same number behind the keyword, which is not zero. -/
theorem exists_keyword_of_at_mem_parameterNames
    (ha : a ∈ (ready CSharp.language declaration).apis) (ho : o ∈ a.operations) {name : String}
    (hat : "@" ++ name ∈ o.parameters.map (·.name)) (hname : name ∈ o.parameters.map (·.name)) :
    ∃ keyword ∈ CSharp.keywords, ∃ n, 0 < n ∧ name = Scope.numbered keyword n ∧
      n < (o.parameters.map fun p => CSharp.language.parameterIdentifier p.jsonName).count
        ("@" ++ keyword) := by
  have hgranted := hat
  rw [map_name_parameters_of_mem ha ho] at hgranted hname
  obtain ⟨identifier, hidentifier, n, hn⟩ := Scope.exists_numbered_of_mem_claimAll hgranted
  obtain ⟨p, -, rfl⟩ := List.mem_map.mp hidentifier
  obtain ⟨keyword, hkeyword, heq⟩ := CSharp.exists_keyword_of_at_eq_numbered hn
  have hnumbered : name = Scope.numbered keyword n := by
    rw [heq, Scope.numbered_append] at hn
    simpa using congrArg bare hn
  -- Without a number the other parameter would be called like the keyword.
  have hlegal : CSharp.IsLegal name := by
    refine Client.forall_claimAll (P := CSharp.IsLegal) (fun _ n h => h.numbered n) ?_ name hname
    intro identifier hidentifier
    obtain ⟨p, -, rfl⟩ := List.mem_map.mp hidentifier
    exact CSharp.isLegal_parameterIdentifier p.jsonName
  refine ⟨keyword, hkeyword, n, Nat.pos_of_ne_zero ?_, hnumbered, ?_⟩
  · rintro rfl
    exact hlegal.notKeyword (hnumbered ▸ hkeyword)
  · rw [← numbered_at_mem_parameterNames_iff ha ho hkeyword, Scope.numbered_append, ← hnumbered]
    exact hat

/-- **Parameters as identifiers**: without an `@` in front the names of an operation's parameters
differ exactly if none of them is a keyword with a number that the keyword itself is granted
behind its `@`, which are the numbers from one up to and without the number of the parameters
that claim the keyword. -/
theorem nodup_bare_parameterNames_iff
    (ha : a ∈ (ready CSharp.language declaration).apis) (ho : o ∈ a.operations) :
    (o.parameters.map fun p => bare p.name).Nodup ↔
      ∀ keyword ∈ CSharp.keywords, ∀ n, 0 < n →
        n < (o.parameters.map fun p => CSharp.language.parameterIdentifier p.jsonName).count
          ("@" ++ keyword) →
        Scope.numbered keyword n ∉ o.parameters.map (·.name) := by
  have hnodup : (o.parameters.map (·.name)).Nodup := by
    rw [map_name_parameters_of_mem ha ho]
    exact Scope.nodup_claimAll _ _
  have hbare : (o.parameters.map fun p => bare p.name) = (o.parameters.map (·.name)).map bare := by
    rw [List.map_map]
    rfl
  rw [hbare, List.nodup_map_iff_inj_on hnodup]
  constructor
  · -- The keyword behind its `@` and the plain name would be one identifier.
    intro hinj keyword hkeyword n hpos hcount hplain
    rw [← numbered_at_mem_parameterNames_iff ha ho hkeyword, Scope.numbered_append] at hcount
    have hsame := hinj _ hcount _ hplain (by
      rw [bare_at_append, bare_numbered, CSharp.bare_of_mem_keywords hkeyword])
    have hlength := congrArg String.length hsame
    simp at hlength
  · intro hnone name hname other hother hsame
    by_contra hne
    rcases eq_at_of_bare_eq hsame hne with rfl | rfl
    · obtain ⟨keyword, hkeyword, n, hpos, rfl, hcount⟩ :=
        exists_keyword_of_at_mem_parameterNames ha ho hname hother
      exact hnone keyword hkeyword n hpos hcount hother
    · obtain ⟨keyword, hkeyword, n, hpos, rfl, hcount⟩ :=
        exists_keyword_of_at_mem_parameterNames ha ho hother hname
      exact hnone keyword hkeyword n hpos hcount hname

/-- An operation of which two parameters are called by the same keyword, and one by `plain`. -/
def keywordThenPlain (plain : String) : Declaration where
  apis := some [{ path := "/pets", operations := [{ nickname := "find", parameters :=
    [{ name := "class" }, { name := "class-" }, { name := plain }] }] }]

theorem nodup_bare_parameterNames_keywordThenPlain :
    ∃ a ∈ (ready CSharp.language (keywordThenPlain "class2")).apis, ∃ o ∈ a.operations,
      o.parameters.map (·.name) = ["@class", "@class1", "class2"] ∧
        (o.parameters.map fun p => bare p.name).Nodup := by
  have hshown : ∃ a ∈ (ready CSharp.language (keywordThenPlain "class2")).apis,
      ∃ o ∈ a.operations, o.parameters.map (·.name) = ["@class", "@class1", "class2"] ∧
        o.parameters.map (fun p => CSharp.language.parameterIdentifier p.jsonName) =
          ["@class", "@class", "class2"] := by
    decide +kernel
  obtain ⟨a, ha, o, ho, hnames, hidentifiers⟩ := hshown
  refine ⟨a, ha, o, ho, hnames, (nodup_bare_parameterNames_iff ha ho).mpr ?_⟩
  rw [hnames, hidentifiers]
  have hkeywords : ∀ keyword ∈ CSharp.keywords,
      ["@class", "@class", "class2"].count ("@" ++ keyword) ≤ 2 ∧
        Scope.numbered keyword 1 ∉ ["@class", "@class1", "class2"] := by
    decide +kernel
  intro keyword hkeyword n hpos hcount
  obtain ⟨htwice, hone⟩ := hkeywords keyword hkeyword
  obtain rfl : n = 1 := by omega
  exact hone

/-- The second parameter with the keyword is the same identifier as the third one. -/
theorem bare_parameterNames_keywordThenPlain :
    ∃ a ∈ (ready CSharp.language (keywordThenPlain "class1")).apis, ∃ o ∈ a.operations,
      o.parameters.map (·.name) = ["@class", "@class1", "class1"] ∧
        ¬ (o.parameters.map fun p => bare p.name).Nodup := by
  decide +kernel

end Converter

end Stencil
