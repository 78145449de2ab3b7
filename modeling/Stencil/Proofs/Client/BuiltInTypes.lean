import Stencil.Proofs.Client.Undeclared
import Stencil.Proofs.Language.Capitals
import Stencil.Proofs.Naming.Granted

/-!
# Classes and built-in types

A value that is neither a model nor a list has a type of the language itself. Most of these types are
keywords of C#, and start with a small letter in TypeScript, so that no class has their name. A class
can have the name of one that is no keyword, and in TypeScript of one that is no reserved word, where
the letter in front of the class is not capitalized. It then has this name unless an earlier class
has it for its file, without regard to case.

## Main definitions

* `Language.IsBuiltIn type`: a text is written for values that are neither models nor lists

## Main results

* `CSharp.isBuiltIn_iff`, `TypeScript.isBuiltIn_iff`: the built-in types of the languages
* `Converter.name_eq_typeIdentifier_iff`: when a class has the identifier of its model
* `Converter.isBuiltIn_name_iff`: when a class has the name of a built-in type
-/

namespace Stencil

open Naming

/-! ## Built-in types -/

/-- Whether values of a kind are neither models nor lists. -/
def Kind.isPlain : Kind → Bool
  | .primitive _ _ => true
  | .list _ => false
  | .model _ => false
  | .void => true
  | .unknown => true

/-- A text that is written for the values of a kind that is neither a model nor a list, whatever the
models are called. -/
def Language.IsBuiltIn (language : Language) (type : String) : Prop :=
  ∃ kind : Kind, kind.isPlain = true ∧ ∀ modelName, language.typeName modelName kind = type

theorem Language.typeName_of_isPlain (language : Language) {kind : Kind}
    (h : kind.isPlain = true) (modelName : String → String) :
    language.typeName modelName kind = language.plainType kind := by
  cases kind with
  | primitive _ _ => rfl
  | list _ => cases h
  | model _ => cases h
  | void => rfl
  | unknown => rfl

theorem Language.isBuiltIn_iff_plainType {language : Language} {type : String} :
    language.IsBuiltIn type ↔ ∃ kind : Kind, kind.isPlain = true ∧ language.plainType kind = type := by
  refine exists_congr fun kind => and_congr_right fun hplain => ?_
  simp only [language.typeName_of_isPlain hplain]
  exact ⟨fun h => h id, fun h _ => h⟩

/-- Kinds that are neither models nor lists, among them all primitives. -/
def Kind.plainKinds : List Kind :=
  .void :: .unknown :: Kind.primitiveNames.map fun name => .primitive name none

/-- The built-in types of a language are those in a list, if the types of all primitives, of `void`
and of unknown values are in it, and it holds none but these. -/
theorem Language.isBuiltIn_iff_mem {language : Language} {types : List String}
    (hprimitive : ∀ name format, language.plainType (.primitive name format) ∈ types)
    (hvoid : language.plainType .void ∈ types) (hunknown : language.plainType .unknown ∈ types)
    (hwritten : ∀ type ∈ types, type ∈ Kind.plainKinds.map language.plainType) {type : String} :
    language.IsBuiltIn type ↔ type ∈ types := by
  rw [isBuiltIn_iff_plainType]
  constructor
  · rintro ⟨kind, hplain, rfl⟩
    cases kind with
    | primitive name format => exact hprimitive name format
    | list _ => cases hplain
    | model _ => cases hplain
    | void => exact hvoid
    | unknown => exact hunknown
  · intro h
    have hplain : ∀ kind ∈ Kind.plainKinds, kind.isPlain = true := by decide
    obtain ⟨kind, hkind, htype⟩ := List.mem_map.mp (hwritten type h)
    exact ⟨kind, hplain kind hkind, htype⟩

namespace CSharp

/-- The types that C# has for values that are neither models nor lists. -/
def builtInTypes : List String :=
  ["long", "int", "double", "float", "DateTime", "byte", "string", "bool", "object", "void"]

theorem plainType_primitive_mem_builtInTypes (name : String) (format : Option String) :
    language.plainType (.primitive name format) ∈ builtInTypes := by
  change primitiveType name format ∈ builtInTypes
  unfold primitiveType
  split <;> decide

theorem isBuiltIn_iff {type : String} : language.IsBuiltIn type ↔ type ∈ builtInTypes :=
  Language.isBuiltIn_iff_mem plainType_primitive_mem_builtInTypes (by decide) (by decide)
    (by decide)

/-- The other built-in types are keywords. -/
theorem isBuiltIn_typeIdentifier_iff {name : String} :
    language.IsBuiltIn (language.typeIdentifier name) ↔ name = "DateTime" := by
  rw [isBuiltIn_iff]
  constructor
  · intro hmem
    have hkeywords : ∀ type ∈ builtInTypes, type ∈ keywords ∨ type = "DateTime" := by decide +kernel
    have hlegal : IsLegal (language.typeIdentifier name) := isLegal_safeIdentifier name.toList
    have hname := (hkeywords _ hmem).resolve_left hlegal.notKeyword
    -- The one that is left holds neither an underscore nor an `@`, so that it is the name itself.
    have hchars : safeIdentifier name.toList = "DateTime".toList := by
      rw [← hname]
      exact String.toList_ofList.symm
    have hself : safeIdentifier name.toList = name.toList :=
      safeIdentifier_eq_self_of_notMem (by rw [hchars]; decide) (by rw [hchars]; decide)
    rw [← String.toList_inj, ← hself, hchars]
  · rintro rfl
    decide +kernel

end CSharp

namespace TypeScript

/-- The types that TypeScript has for values that are neither models nor lists. -/
def builtInTypes : List String := ["number", "string", "boolean", "Blob", "unknown", "void"]

theorem plainType_primitive_mem_builtInTypes (name : String) (format : Option String) :
    language.plainType (.primitive name format) ∈ builtInTypes := by
  change primitiveType name ∈ builtInTypes
  unfold primitiveType
  split <;> decide

theorem isBuiltIn_iff {type : String} : language.IsBuiltIn type ↔ type ∈ builtInTypes :=
  Language.isBuiltIn_iff_mem plainType_primitive_mem_builtInTypes (by decide) (by decide)
    (by decide)

/-- Only `void` is a reserved word. -/
theorem isBuiltIn_typeIdentifier_iff {name : String} :
    language.IsBuiltIn (language.typeIdentifier name) ↔
      language.typeIdentifier name ∈ ["Blob", "number", "string", "boolean", "unknown"] := by
  rw [isBuiltIn_iff]
  constructor
  · intro hmem
    have hreserved : ∀ type ∈ builtInTypes,
        type ∈ reservedWords ∨ type ∈ ["Blob", "number", "string", "boolean", "unknown"] := by
      decide +kernel
    exact (hreserved _ hmem).resolve_left (isLegal_typeIdentifier name).notReserved
  · have hsome : ∀ type ∈ ["Blob", "number", "string", "boolean", "unknown"],
        type ∈ builtInTypes := by
      decide
    exact hsome _

/-- But for `Blob`, built-in types start with a small letter. -/
theorem eq_blob_or_uncoversSmall {name : String}
    (h : language.IsBuiltIn (language.typeIdentifier name)) :
    language.typeIdentifier name = "Blob" ∨ UncoversSmall name.toList := by
  have hsmall : ∀ type ∈ builtInTypes, type = "Blob" ∨ type.toList.head?.any Char.isLower = true := by
    decide +kernel
  refine (hsmall _ (isBuiltIn_iff.mp h)).imp_right fun hlower => ?_
  exact (startsSmall_typeIdentifier_iff.mp (startsSmall_iff.mpr hlower)).1

end TypeScript

/-! ## Classes with the identifier of their model -/

namespace Converter

variable {language : Language} {declaration : Declaration} {m : Client.ModelDescriptor}
  {before after : List Client.ModelDescriptor}

theorem map_declaredName_models (language : Language) (declaration : Declaration) :
    (ready language declaration).models.map (·.declaredName) = declaration.models.keys := by
  rw [models_ready, Written.map, List.map_map]
  rfl

/-- **The identifier of its model** is the name of a class exactly if no class in front of it has
this for its file, without regard to case. -/
theorem name_eq_typeIdentifier_iff (hnames : language.NamesFiles)
    (hmodels : (ready language declaration).models = before ++ m :: after) :
    m.name = language.typeIdentifier m.declaredName ↔
      ∀ other ∈ before, Text.lowerText other.fileName ≠
        Text.lowerText (language.fileStem (language.typeIdentifier m.declaredName)) := by
  have hm : m ∈ (ready language declaration).models :=
    hmodels ▸ List.mem_append_right _ List.mem_cons_self
  have hgranted : (ready language declaration).models.map (·.fileName) =
      Scope.claimAll ⟨true, []⟩ ((ready language declaration).models.map fun m =>
        language.fileStem (language.typeIdentifier m.declaredName)) := by
    rw [map_fileName_models hnames, ← map_declaredName_models language, List.map_map]
    rfl
  have hnumber := Scope.granted_eq_numbered_iff_key hgranted hmodels (n := 0)
  have hname := name_eq_numbered_iff hnames hm 0
  rw [Scope.numbered_zero] at hname hnumber
  -- Names are granted for files, so that the number of a class is that of its file.
  rw [hname, Scope.numbered_zero, hnumber]
  simp [Scope.key]

/-- A class has the name of a built-in type if this is the identifier of its model and the class is
given it: no such type ends in a number. -/
theorem isBuiltIn_name_iff_typeIdentifier (hnames : language.NamesFiles)
    (hdigits : ∀ type, language.IsBuiltIn type → type.toList.any Char.isDigit = false)
    (hmodels : (ready language declaration).models = before ++ m :: after) :
    language.IsBuiltIn m.name ↔
      language.IsBuiltIn (language.typeIdentifier m.declaredName) ∧
        ∀ other ∈ before, Text.lowerText other.fileName ≠
          Text.lowerText (language.fileStem (language.typeIdentifier m.declaredName)) := by
  rw [← name_eq_typeIdentifier_iff hnames hmodels]
  constructor
  · intro hbuiltIn
    obtain ⟨n, hn⟩ := exists_numbered_name (hmodels ▸ List.mem_append_right _ List.mem_cons_self)
    obtain rfl : n = 0 := Scope.eq_zero_of_forall_not_isDigit
      (hn ▸ List.any_eq_false.mp (hdigits _ hbuiltIn))
    have hname : m.name = language.typeIdentifier m.declaredName := hn
    exact ⟨hname ▸ hbuiltIn, hname⟩
  · rintro ⟨hbuiltIn, hname⟩
    rwa [hname]

/-- **Built-in types as names of classes**: in C# a class has the name of one exactly if its model is
called `DateTime` and no class in front of it has this for its file, without regard to case. In
TypeScript it has such a name exactly if the identifier of its model is one of five types that are
not reserved, and no class in front of it has this for its file. But for `Blob`, the name of the
model then uncovers a small letter. -/
theorem isBuiltIn_name_iff (declaration : Declaration) :
    (∀ (before : List Client.ModelDescriptor) (m : Client.ModelDescriptor) (after),
        (ready CSharp.language declaration).models = before ++ m :: after →
      (CSharp.language.IsBuiltIn m.name ↔ m.declaredName = "DateTime" ∧
        ∀ other ∈ before, Text.lowerText other.fileName ≠ "datetime")) ∧
    ∀ (before : List Client.ModelDescriptor) (m : Client.ModelDescriptor) (after),
        (ready TypeScript.language declaration).models = before ++ m :: after →
      (TypeScript.language.IsBuiltIn m.name ↔
        TypeScript.language.typeIdentifier m.declaredName ∈
            ["Blob", "number", "string", "boolean", "unknown"] ∧
          ∀ other ∈ before, Text.lowerText other.fileName ≠
            Text.lowerText (TypeScript.language.typeIdentifier m.declaredName)) ∧
      (TypeScript.language.IsBuiltIn m.name →
        m.name = "Blob" ∨ TypeScript.UncoversSmall m.declaredName.toList) := by
  constructor
  · intro before m after hmodels
    have hdigits : ∀ type ∈ CSharp.builtInTypes, type.toList.any Char.isDigit = false := by
      decide +kernel
    have hfile : Text.lowerText
        (CSharp.language.fileStem (CSharp.language.typeIdentifier "DateTime")) = "datetime" := by
      decide +kernel
    rw [isBuiltIn_name_iff_typeIdentifier CSharp.namesFiles
      (fun type htype => hdigits type (CSharp.isBuiltIn_iff.mp htype)) hmodels,
      CSharp.isBuiltIn_typeIdentifier_iff]
    refine and_congr_right fun hname => ?_
    rw [hname, hfile]
  · intro before m after hmodels
    have hdigits : ∀ type ∈ TypeScript.builtInTypes, type.toList.any Char.isDigit = false := by
      decide +kernel
    have hiff := isBuiltIn_name_iff_typeIdentifier TypeScript.namesFiles
      (fun type htype => hdigits type (TypeScript.isBuiltIn_iff.mp htype)) hmodels
    refine ⟨?_, fun hbuiltIn => ?_⟩
    · rw [hiff, TypeScript.isBuiltIn_typeIdentifier_iff]
      rfl
    · obtain ⟨hidentifier, hfree⟩ := hiff.mp hbuiltIn
      rw [(name_eq_typeIdentifier_iff TypeScript.namesFiles hmodels).mpr hfree]
      exact TypeScript.eq_blob_or_uncoversSmall hidentifier

/-- A model that is called like the type of dates in C#, behind one with a date. -/
def datedModels : Declaration where
  models := ⟨[("Pet", { properties :=
      ⟨[("born", { type := "string", format := "date" })], by decide⟩ }), ("DateTime", {})],
    by decide⟩

theorem isBuiltIn_name_iff_datedModels :
    ∃ other m, (ready CSharp.language datedModels).models = [other] ++ m :: [] ∧
      m.declaredName = "DateTime" ∧ Text.lowerText other.fileName ≠ "datetime" ∧
      CSharp.language.IsBuiltIn m.name := by
  obtain ⟨other, m, hmodels⟩ :
      ∃ other m, (ready CSharp.language datedModels).models = [other] ++ m :: [] := ⟨_, _, rfl⟩
  have hshown : (ready CSharp.language datedModels).models.map (fun m =>
      (m.declaredName, Text.lowerText m.fileName)) = [("Pet", "pet"), ("DateTime", "datetime")] := by
    decide +kernel
  rw [hmodels] at hshown
  simp only [List.singleton_append, List.map_cons, List.map_nil, List.cons.injEq, Prod.mk.injEq,
    and_true] at hshown
  obtain ⟨⟨-, hother⟩, hm, -⟩ := hshown
  have hfree : Text.lowerText other.fileName ≠ "datetime" := by
    rw [hother]
    decide
  refine ⟨other, m, hmodels, hm, hfree, ?_⟩
  refine ((isBuiltIn_name_iff datedModels).1 [other] m [] hmodels).mpr ⟨hm, ?_⟩
  intro o ho
  rwa [List.mem_singleton.mp ho]

/-- Here the dates of the class in front are, as written, instances of the class behind. -/
theorem datedModels_name_isBuiltIn :
    (ready CSharp.language datedModels).models.map (fun m =>
        (m.name, m.properties.map fun p => (p.name, p.type))) =
      [("Pet", [("Born", "DateTime")]), ("DateTime", [])] ∧
    CSharp.language.IsBuiltIn "DateTime" :=
  ⟨by decide +kernel, CSharp.isBuiltIn_iff.mpr (by decide)⟩

end Converter

end Stencil
