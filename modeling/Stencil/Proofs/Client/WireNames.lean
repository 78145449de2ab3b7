import Stencil.Proofs.Client.MemberNames
import Stencil.Proofs.Naming.Granted
import Stencil.Proofs.Text.Cutting

/-!
# Names on the wire

In TypeScript a property is called as on the wire, in quotes where that is no identifier. Behind
the quote every backslash and every quote of the name has a backslash in front, so that the name
on the wire is read back out of each property name. Different names on the wire give different
property names, and no property of a class ever gets a number.

## Main definitions

* `TypeScript.wireName`: the name on the wire that a property name stands for

## Main results

* `TypeScript.quoteIfNeeded_eq`: quoting as two replacements one after the other
* `TypeScript.wireName_quoteIfNeeded`: names on the wire are read back
* `Converter.propertyNames_onWire`: no property is renamed
-/

namespace Stencil

open Naming

/-! ## Quoting -/

namespace TypeScript

/-- The backslashes are doubled first, and then the quotes get theirs. -/
theorem flatMap_escapedChar (name : List Char) :
    name.flatMap escapedChar =
      Text.replaced ['"'] ['\\', '"'] (Text.replaced ['\\'] ['\\', '\\'] name) := by
  rw [Text.replaced_singleton, Text.replaced_singleton, List.flatMap_assoc]
  refine List.flatMap_congr fun c _ => ?_
  unfold escapedChar
  split_ifs with hbackslash hquote
  · rfl
  · rw [List.flatMap_singleton, if_pos hquote]
  · rw [List.flatMap_singleton, if_neg hquote]

/-- **Quoting** is done by two replacements one after the other. -/
theorem quoteIfNeeded_eq (name : List Char) :
    quoteIfNeeded name =
      if needsQuoting name then
        ['"'] ++ Text.replaced ['"'] ['\\', '"'] (Text.replaced ['\\'] ['\\', '\\'] name) ++ ['"']
      else name := by
  rw [quoteIfNeeded, flatMap_escapedChar]

/-! ## Reading names back -/

/-- What stands between quotes without the backslashes in front of backslashes and quotes. -/
def unescaped : List Char → List Char
  | '\\' :: '\\' :: rest => '\\' :: unescaped rest
  | '\\' :: '"' :: rest => '"' :: unescaped rest
  | c :: rest => c :: unescaped rest
  | [] => []

/-- The name on the wire that a property name stands for: what is between its quotes, or else the
name itself. -/
def wireName : List Char → List Char
  | '"' :: rest => unescaped rest.dropLast
  | name => name

theorem unescaped_cons {c : Char} (h : c ≠ '\\') (rest : List Char) :
    unescaped (c :: rest) = c :: unescaped rest :=
  unescaped.eq_3 c rest (fun _ hc _ => h hc) (fun _ hc _ => h hc)

theorem unescaped_escapedChar_append (c : Char) (rest : List Char) :
    unescaped (escapedChar c ++ rest) = c :: unescaped rest := by
  unfold escapedChar
  split_ifs with hbackslash hquote
  · rw [hbackslash]
    rfl
  · rw [hquote]
    rfl
  · exact unescaped_cons hbackslash rest

theorem unescaped_flatMap_escapedChar (name : List Char) :
    unescaped (name.flatMap escapedChar) = name := by
  induction name with
  | nil => rfl
  | cons c rest ih => rw [List.flatMap_cons, unescaped_escapedChar_append, ih]

/-- **Names on the wire** are read back, whatever characters they hold. -/
theorem wireName_quoteIfNeeded (name : List Char) : wireName (quoteIfNeeded name) = name := by
  unfold quoteIfNeeded
  split_ifs with h
  · rw [List.singleton_append, List.cons_append, wireName, List.dropLast_concat,
      unescaped_flatMap_escapedChar]
  · -- A name that needs no quotes does not start with one.
    refine wireName.eq_2 name fun rest hname => h ?_
    rw [hname]
    simp [needsQuoting, isIdentifierStart]

theorem propertyIdentifier_injective (owner : String) :
    Function.Injective fun jsonName => language.propertyIdentifier jsonName owner := by
  intro name other h
  have h := congrArg wireName (String.ofList_injective h)
  rwa [wireName_quoteIfNeeded, wireName_quoteIfNeeded, String.toList_inj] at h

end TypeScript

/-! ## Properties of classes -/

namespace Converter

variable {language : Language} {declaration : Declaration} {m : Client.ModelDescriptor}

theorem nodup_jsonNames_of_mem (hm : m ∈ (ready language declaration).models) :
    (m.properties.map (·.jsonName)).Nodup := by
  obtain ⟨entry, -, rfl⟩ := List.mem_map.mp hm
  have hkeys := entry.2.properties.nodup_keys
  change ((entry.2.properties.map _).map _).Nodup
  rwa [Written.map, List.map_map]

/-- Properties of which no two have the same identifier are called by their identifiers. -/
theorem name_eq_propertyIdentifier (hm : m ∈ (ready language declaration).models)
    (hidentifiers :
      (m.properties.map fun p => language.propertyIdentifier p.jsonName m.name).Nodup) :
    ∀ p ∈ m.properties, p.name = language.propertyIdentifier p.jsonName m.name := by
  have hnames := map_name_properties_of_mem hm
  rw [Scope.claimAll_eq_self ((List.map_id _).symm ▸ hidentifiers) fun _ _ => List.not_mem_nil]
    at hnames
  exact fun p hp => List.map_inj_left.mp hnames p hp

/-- **No property is renamed** in TypeScript: each is called as on the wire, in quotes where that is
no identifier, and never with a number. The name on the wire is read back out of the property
name, so that different names on the wire give different names of properties. -/
theorem propertyNames_onWire (hm : m ∈ (ready TypeScript.language declaration).models) :
    (∀ p ∈ m.properties,
        p.name = String.ofList (TypeScript.quoteIfNeeded p.jsonName.toList) ∧
          (p.name.toList =
            if TypeScript.needsQuoting p.jsonName.toList then
              ['"'] ++ Text.replaced ['"'] ['\\', '"']
                (Text.replaced ['\\'] ['\\', '\\'] p.jsonName.toList) ++ ['"']
            else p.jsonName.toList) ∧
          TypeScript.wireName p.name.toList = p.jsonName.toList) ∧
      (∀ p ∈ m.properties, ∀ q ∈ m.properties, p.name = q.name ↔ p.jsonName = q.jsonName) ∧
      (m.properties.map (·.name)).Nodup := by
  have hinjective := TypeScript.propertyIdentifier_injective m.name
  have hidentifiers : (m.properties.map fun p =>
      TypeScript.language.propertyIdentifier p.jsonName m.name).Nodup := by
    have hmapped := (nodup_jsonNames_of_mem hm).map hinjective
    rwa [List.map_map] at hmapped
  -- As the identifiers differ, each property is granted its own as it is.
  have hnames := name_eq_propertyIdentifier hm hidentifiers
  refine ⟨fun p hp => ?_, fun p hp q hq => ?_, ?_⟩
  · have hchars : p.name.toList = TypeScript.quoteIfNeeded p.jsonName.toList := by
      rw [hnames p hp]
      exact String.toList_ofList
    refine ⟨hnames p hp, ?_, ?_⟩
    · rw [hchars, TypeScript.quoteIfNeeded_eq]
    · rw [hchars, TypeScript.wireName_quoteIfNeeded]
  · rw [hnames p hp, hnames q hq]
    exact hinjective.eq_iff
  · rwa [List.map_congr_left hnames]

/-- A model whose properties are called by a quote, by a backslash, by a backslash and a quote, and
by a number, and one property that needs no quotes. -/
def hostileNames : Declaration :=
  { models := ⟨[("Pet", { properties :=
      ⟨[("\"", {}), ("\\", {}), ("say\\\"", {}), ("1", {}), ("plain", {})], by decide⟩ })],
    by decide⟩ }

theorem propertyNames_onWire_hostileNames :
    ∃ m ∈ (ready TypeScript.language hostileNames).models,
      m.properties.map (·.name) =
          ["\"\\\"\"", "\"\\\\\"", "\"say\\\\\\\"\"", "\"1\"", "plain"] ∧
        (∀ p ∈ m.properties, TypeScript.wireName p.name.toList = p.jsonName.toList) ∧
        (m.properties.map (·.name)).Nodup := by
  have hshown : ∃ m ∈ (ready TypeScript.language hostileNames).models,
      m.properties.map (·.name) =
        ["\"\\\"\"", "\"\\\\\"", "\"say\\\\\\\"\"", "\"1\"", "plain"] := by
    decide +kernel
  obtain ⟨m, hm, hnames⟩ := hshown
  obtain ⟨hread, -, hnodup⟩ := propertyNames_onWire hm
  exact ⟨m, hm, hnames, fun p hp => (hread p hp).2.2, hnodup⟩

end Converter

end Stencil
