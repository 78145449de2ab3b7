import Stencil.Proofs.Address.FileName
import Stencil.Proofs.Language.Legal
import Stencil.Proofs.Run.Echo
import Stencil.Proofs.Run.ShippedTemplates
import Stencil.Proofs.Template.Opening

/-!
# Names of interfaces

The shipped templates for the operations declare an interface, whose name is the name of the
declaration with an `I` in front or with `Api` behind it. This name is the stem of the file that the
locator names, character by character: no rule of the language is applied to it. So the interface
has a legal name just where the file is called by a word of identifier characters, with at most one
dot and an extension behind it, and in TypeScript this word starts with no digit.

## Main definitions

* `Options.csharpHeader o`, `Options.typeScriptHeader o`: what stands in front of the interface

## Main results

* `CSharp.isLegal_interface_iff`, `TypeScript.isLegal_interface_iff`: legal names of interfaces
* `TemplatePair.exists_render_interface`: the interface comes behind the locator and the namespace
* `RenderUnit.interface_isLegal_iff`: when the interface of a declaration has a legal name
-/

namespace Stencil

/-! ## Legal names of interfaces -/

/-- **An interface of C#** has a legal name if what stands behind the `I` are identifier
characters. -/
theorem CSharp.isLegal_interface_iff (name : String) :
    IsLegal ("I" ++ name) ↔ ∀ c ∈ name.toList, isIdentifierChar c = true := by
  have hbare : bareChars ("I" ++ name).toList = 'I' :: name.toList := by
    rw [String.toList_append]
    rfl
  have hletter : isIdentifierChar 'I' = true := by decide
  constructor
  · intro hlegal c hc
    apply hlegal.chars c
    rw [hbare]
    exact List.mem_cons_of_mem _ hc
  · intro hchars
    refine ⟨⟨'I', name.toList, hbare, by decide⟩, ?_, ?_⟩
    · rw [hbare]
      exact List.forall_mem_cons.mpr ⟨hletter, hchars⟩
    · -- Keywords are in small letters.
      intro hkeyword
      have hlower := isLower_of_mem_keywords hkeyword 'I' (by simp)
      cases hlower

namespace TypeScript

theorem capital_notMem_reservedWords {word : String} (h : word ∈ reservedWords) :
    'A' ∉ word.toList := by
  have hwords : (reservedWords.all fun word => !word.toList.contains 'A') = true := by
    decide +kernel
  simpa using List.all_eq_true.mp hwords word h

/-- **An interface of TypeScript** has a legal name if what stands in front of `Api` are identifier
characters and no digit comes first. -/
theorem isLegal_interface_iff {name : String} (hne : name ≠ "") :
    IsLegal (name ++ "Api") ↔ (∀ c ∈ name.toList, isIdentifierChar c = true) ∧
      ¬ ∃ digit, name.toList.head? = some digit ∧ digit.isDigit = true := by
  obtain ⟨first, rest, hname⟩ : ∃ first rest, name.toList = first :: rest := by
    apply List.exists_cons_of_ne_nil
    simpa using hne
  have hlist : (name ++ "Api").toList = first :: (rest ++ "Api".toList) := by
    rw [String.toList_append, hname, List.cons_append]
  constructor
  · intro hlegal
    constructor
    · intro c hc
      apply hlegal.chars c
      rw [String.toList_append]
      exact List.mem_append_left _ hc
    · rintro ⟨digit, hhead, hdigit⟩
      obtain ⟨start, others, hstart, hfirst⟩ := hlegal.starts
      obtain ⟨rfl, -⟩ := List.cons.inj (hlist.symm.trans hstart)
      rw [hname] at hhead
      obtain rfl := Option.some.inj hhead
      exact not_isDigit_of_isIdentifierStart hfirst hdigit
  · rintro ⟨hchars, hdigit⟩
    refine ⟨⟨first, _, hlist, ?_⟩, ?_, ?_⟩
    · apply isIdentifierStart_of_not_isDigit (hchars first (hname ▸ List.mem_cons_self))
      intro hfirst
      exact hdigit ⟨first, by rw [hname]; rfl, hfirst⟩
    · have hending : ∀ c ∈ "Api".toList, isIdentifierChar c = true :=
        List.all_eq_true.mp (by decide)
      intro c hc
      rw [String.toList_append] at hc
      exact (List.mem_append.mp hc).elim (hchars c) (hending c)
    · intro hreserved
      refine capital_notMem_reservedWords hreserved ?_
      rw [hlist]
      simp

end TypeScript

/-! ## Interfaces in the shipped templates -/

/-- What stands in front of the interface of C#. -/
def Options.csharpHeader (o : Options) : String :=
  "// Generated from " ++ o.input ++ ("\nusing System;\nusing System.Collections.Generic;\n" ++
    "using System.Threading.Tasks;\n\nnamespace ") ++ o.nameSpace ++ "\n\x7b\n    "

/-- What stands in front of the interface of TypeScript. -/
def Options.typeScriptHeader (o : Options) : String :=
  "// Generated from " ++ o.input ++ "\n// namespace " ++ o.nameSpace ++ "\n\n"

namespace TemplatePair

open Template (EchoPart Node Piece shown tag trimTag toList_ofLines exists_eq_opening_append)

section Rendering

variable (o : Options) (apis : List Client.ApiDescriptor)

/-- The operations in a shipped template are rendered, and the opening of the template comes
first. -/
theorem exists_render_operations {pair : TemplatePair} (hpair : pair ∈ shipped)
    {parts : List EchoPart}
    (hopening : (Node.read? (pair.template .operations)).map Node.opening = some parts) :
    ∃ rest, Template.render (pair.template .operations) (RenderUnit.ofApis o apis).view =
      .ok (String.join (parts.map (EchoPart.written o.fieldText)) ++ rest) := by
  have hunit : (RenderUnit.ofApis o apis).MadeWith o := .ofApis apis
  obtain ⟨text, htext⟩ :=
    Template.exists_render_of_checks (checks_shipped hpair .operations) hunit.fits_view
  obtain ⟨members, hview, hmembers⟩ := hunit.exists_members
  have hfields (f : Template.Field) :
      members.lookup f.member = some (.text (o.fieldText f)) := by
    have hrole : (RenderUnit.ofApis o apis).role = .operations := rfl
    apply hmembers
    rw [hrole]
    cases f <;> decide
  rw [hview] at htext ⊢
  obtain ⟨rest, rfl⟩ := exists_eq_opening_append hopening (fun f _ => hfields f) htext
  exact ⟨rest, htext⟩

/-- **The interface in a shipped template** stands behind the locator and the namespace, and its
name is made from that of the declaration. -/
theorem exists_render_interface {pair : TemplatePair} (hpair : pair ∈ shipped)
    {start between header keyword front back behind : String}
    (hopening : (Node.read? (pair.template .operations)).map Node.opening = some [
      .literal start.toList, .field .resourceurl, .literal between.toList, .field .nameSpace,
      .literal (header ++ keyword ++ front).toList, .field .name,
      .literal (back ++ behind).toList]) :
    ∃ rest, Template.render (pair.template .operations) (RenderUnit.ofApis o apis).view =
      .ok (start ++ o.input ++ between ++ o.nameSpace ++ header ++ keyword ++
        (front ++ (Locator.parse o.input).baseName ++ back) ++ behind ++ rest) := by
  obtain ⟨rest, hrest⟩ := exists_render_operations o apis hpair hopening
  refine ⟨rest, hrest.trans ?_⟩
  simp [EchoPart.written, Options.fieldText, String.append_assoc]

end Rendering

theorem opening_csharpOperations :
    (Node.read? (csharp.template .operations)).map Node.opening = some [
      .literal "// Generated from ".toList, .field .resourceurl,
      .literal ("\nusing System;\nusing System.Collections.Generic;\n" ++
        "using System.Threading.Tasks;\n\nnamespace ").toList,
      .field .nameSpace, .literal ("\n\x7b\n    " ++ "public interface " ++ "I").toList,
      .field .name, .literal ("" ++ "\n    \x7b").toList] := by
  simp only [csharp, csharpOperations, Node.read?, Piece.split?, toList_ofLines, List.flatMap_cons,
    List.flatMap_nil, shown, tag, trimTag, String.toList_append]
  decide +kernel

theorem opening_typeScriptOperations :
    (Node.read? (typeScript.template .operations)).map Node.opening = some [
      .literal "// Generated from ".toList, .field .resourceurl,
      .literal "\n// namespace ".toList, .field .nameSpace,
      .literal ("\n\n" ++ "export interface " ++ "").toList, .field .name,
      .literal ("Api" ++ " \x7b").toList] := by
  simp only [typeScript, typeScriptOperations, Node.read?, Piece.split?, toList_ofLines,
    List.flatMap_cons, List.flatMap_nil, shown, tag, trimTag, String.toList_append]
  decide +kernel

/-- The interface of C# is called `I` and the name of the declaration. -/
theorem exists_render_csharpOperations (o : Options) (apis : List Client.ApiDescriptor) :
    ∃ rest, Template.render (csharp.template .operations) (RenderUnit.ofApis o apis).view =
      .ok (o.csharpHeader ++ "public interface " ++ ("I" ++ (Locator.parse o.input).baseName) ++
        "\n    \x7b" ++ rest) := by
  have hpair : csharp ∈ shipped := .head _
  obtain ⟨rest, hrest⟩ := exists_render_interface o apis hpair opening_csharpOperations
  rw [String.append_empty] at hrest
  exact ⟨rest, hrest⟩

/-- The interface of TypeScript is called by the name of the declaration and `Api`. -/
theorem exists_render_typeScriptOperations (o : Options) (apis : List Client.ApiDescriptor) :
    ∃ rest, Template.render (typeScript.template .operations) (RenderUnit.ofApis o apis).view =
      .ok (o.typeScriptHeader ++ "export interface " ++
        ((Locator.parse o.input).baseName ++ "Api") ++ " \x7b" ++ rest) := by
  have hpair : typeScript ∈ shipped := .tail _ (.head _)
  obtain ⟨rest, hrest⟩ := exists_render_interface o apis hpair opening_typeScriptOperations
  rw [String.empty_append] at hrest
  exact ⟨rest, hrest⟩

end TemplatePair

/-! ## The interface of a declaration -/

/-- The view of the operations has the name of the declaration. -/
theorem RenderUnit.exists_name (o : Options) (apis : List Client.ApiDescriptor) :
    ∃ members, (RenderUnit.ofApis o apis).view = .object members ∧
      members.lookup "Name" = some (.text (Locator.parse o.input).baseName) := by
  have hunit : (RenderUnit.ofApis o apis).MadeWith o := .ofApis apis
  obtain ⟨members, hview, hmembers⟩ := hunit.exists_members
  exact ⟨members, hview, hmembers .name (.tail _ (.tail _ (.head _)))⟩

/-- **The interface of a declaration.** The view of the operations has the name of the declaration,
which holds something, and the shipped templates declare an interface that is called by it. This
name holds identifier characters only, and the interface has a legal name, just where the file that
the locator names is called by a word of identifier characters, possibly with an extension behind
it; in TypeScript the file must have no digit in front either. -/
theorem RenderUnit.interface_isLegal_iff (o : Options) (apis : List Client.ApiDescriptor) :
    let locator := Locator.parse o.input
    let name := locator.baseName
    let view := (RenderUnit.ofApis o apis).view
    (∃ members, view = .object members ∧ members.lookup "Name" = some (.text name)) ∧
      name ≠ "" ∧
      (∃ rest, Template.render (TemplatePair.csharp.template .operations) view =
        .ok (o.csharpHeader ++ "public interface " ++ ("I" ++ name) ++ "\n    \x7b" ++ rest)) ∧
      (∃ rest, Template.render (TemplatePair.typeScript.template .operations) view =
        .ok (o.typeScriptHeader ++ "export interface " ++ (name ++ "Api") ++ " \x7b" ++ rest)) ∧
      ((∀ c ∈ name.toList, CSharp.isIdentifierChar c = true) ↔
        locator.NamesWord CSharp.isIdentifierChar) ∧
      ((∀ c ∈ name.toList, TypeScript.isIdentifierChar c = true) ↔
        locator.NamesWord TypeScript.isIdentifierChar) ∧
      (CSharp.IsLegal ("I" ++ name) ↔ locator.NamesWord CSharp.isIdentifierChar) ∧
      (TypeScript.IsLegal (name ++ "Api") ↔
        locator.NamesWord TypeScript.isIdentifierChar ∧ ¬ locator.StartsWithDigit) := by
  intro locator name view
  have hne : name ≠ "" := locator.baseName_ne_empty
  have hcsharp : (∀ c ∈ name.toList, CSharp.isIdentifierChar c = true) ↔
      locator.NamesWord CSharp.isIdentifierChar :=
    locator.forall_mem_baseName_iff (by decide) (List.all_eq_true.mp (by decide))
  have htypeScript : (∀ c ∈ name.toList, TypeScript.isIdentifierChar c = true) ↔
      locator.NamesWord TypeScript.isIdentifierChar :=
    locator.forall_mem_baseName_iff (by decide) (List.all_eq_true.mp (by decide))
  refine ⟨exists_name o apis, hne, TemplatePair.exists_render_csharpOperations o apis,
    TemplatePair.exists_render_typeScriptOperations o apis, hcsharp, htypeScript, ?_, ?_⟩
  · exact (CSharp.isLegal_interface_iff name).trans hcsharp
  · rw [TypeScript.isLegal_interface_iff hne, htypeScript, locator.exists_head?_baseName_iff]

/-- What a run with a document called by two words is asked to do. -/
def twoWordOptions : Options := { petsOptions with input := "my-pets.json" }

/-- The hyphen in the name of the document is no identifier character of either language, and the
interfaces have no legal names. -/
theorem RenderUnit.interface_twoWords :
    (∃ members, (RenderUnit.ofApis twoWordOptions []).view = .object members ∧
        members.lookup "Name" = some (.text "my-pets")) ∧
      CSharp.isIdentifierChar '-' = false ∧ TypeScript.isIdentifierChar '-' = false ∧
      ¬ CSharp.IsLegal "Imy-pets" ∧ ¬ TypeScript.IsLegal "my-petsApi" := by
  have hcsharp : CSharp.isIdentifierChar '-' = false := by decide
  have htypeScript : TypeScript.isIdentifierChar '-' = false := by decide
  have hbase : (Locator.parse twoWordOptions.input).baseName = "my-pets" := by decide +kernel
  have hname := exists_name twoWordOptions []
  rw [hbase] at hname
  refine ⟨hname, hcsharp, htypeScript, ?_, ?_⟩
  · intro hlegal
    have hyphen := hlegal.chars '-' (by decide)
    rw [hcsharp] at hyphen
    cases hyphen
  · intro hlegal
    have hyphen := hlegal.chars '-' (by decide)
    rw [htypeScript] at hyphen
    cases hyphen

end Stencil
