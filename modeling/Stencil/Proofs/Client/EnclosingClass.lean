import Stencil.Proofs.Client.MemberNames
import Stencil.Proofs.Naming.Granted

/-!
# Properties and the class around them

A member in C# may not have the name of the class around it. The identifier of a property never
is this name, as it would get another ending. The number behind a property is chosen later and
without a look at the class: where the class has the name of a property with a number behind, and
the lesser numbers are gone, this number is the next one to be granted.

## Main results

* `CSharp.propertyIdentifier_ne_fileStem`: no identifier of a property is the name of its class
* `Converter.exists_property_named_as_class_iff`: when a property has the name of its class
-/

namespace Stencil

open Naming

theorem CSharp.propertyIdentifier_ne_fileStem (jsonName owner : List Char) :
    CSharp.propertyIdentifier jsonName owner ≠ CSharp.fileStem owner := by
  intro h
  by_cases howner : casedIdentifier pascalCase jsonName = fileStem owner
  · -- The name of the class with an ending is longer than without.
    have heq : propertyIdentifier jsonName owner = fileStem owner ++ "Value".toList := by
      rw [← howner]
      exact if_pos howner
    rw [heq] at h
    exact absurd (List.append_right_eq_self.mp h) (by decide)
  · have heq : propertyIdentifier jsonName owner = casedIdentifier pascalCase jsonName :=
      if_neg howner
    exact howner (heq.symm.trans h)

namespace Converter

variable {declaration : Declaration} {m : Client.ModelDescriptor}

/-- Without an `@` in front, the name of a class is the identifier of none of its properties. -/
theorem propertyIdentifier_ne_bare (hm : m ∈ (ready CSharp.language declaration).models)
    (jsonName : String) : CSharp.language.propertyIdentifier jsonName m.name ≠ bare m.name := by
  rw [← fileName_eq_bare CSharp.namesFiles hm, fileName_eq_fileStem hm]
  intro h
  refine CSharp.propertyIdentifier_ne_fileStem jsonName.toList m.name.toList ?_
  exact String.ofList_injective h

/-- **Properties named like their class**: there is one exactly if the name of the class, without
an `@` in front, is the identifier of a property with a number behind it, where the identifier
itself and all its variants with lesser numbers are granted to properties in front of that one.
It takes two properties with the same identifier. -/
theorem exists_property_named_as_class_iff
    (hm : m ∈ (ready CSharp.language declaration).models) :
    ((∃ p ∈ m.properties, p.name = bare m.name) ↔
      ∃ before p after, m.properties = before ++ p :: after ∧ ∃ n, 0 < n ∧
        bare m.name =
          Scope.numbered (CSharp.language.propertyIdentifier p.jsonName m.name) n ∧
        ∀ k < n, Scope.numbered (CSharp.language.propertyIdentifier p.jsonName m.name) k ∈
          before.map (·.name)) ∧
      ((m.properties.map fun p =>
          CSharp.language.propertyIdentifier p.jsonName m.name).Nodup →
        ∀ p ∈ m.properties, p.name ≠ bare m.name) := by
  have hgranted := map_name_properties_of_mem hm
  refine ⟨⟨?_, ?_⟩, ?_⟩
  · rintro ⟨p, hp, hname⟩
    obtain ⟨before, after, hproperties⟩ := List.append_of_mem hp
    obtain ⟨n, hn⟩ : ∃ n, p.name =
        Scope.numbered (CSharp.language.propertyIdentifier p.jsonName m.name) n :=
      ⟨_, (Scope.granted_eq_claim hgranted hproperties).2⟩
    refine ⟨before, p, after, hproperties, n, Nat.pos_of_ne_zero ?_, hname.symm.trans hn, ?_⟩
    · -- Without a number the property has its identifier.
      rintro rfl
      exact propertyIdentifier_ne_bare hm p.jsonName (hn.symm.trans hname)
    · exact ((Scope.granted_eq_numbered_iff hgranted hproperties).mp hn).1
  · rintro ⟨before, p, after, hproperties, n, -, hclass, hlesser⟩
    by_cases hbefore : bare m.name ∈ before.map (·.name)
    · -- A property in front of this one was granted the name already.
      obtain ⟨other, hother, hname⟩ := List.mem_map.mp hbefore
      exact ⟨other, hproperties ▸ List.mem_append_left _ hother, hname⟩
    · rw [hclass] at hbefore
      refine ⟨p, hproperties ▸ List.mem_append_right _ List.mem_cons_self, hclass ▸ ?_⟩
      exact (Scope.granted_eq_numbered_iff hgranted hproperties).mpr ⟨hlesser, hbefore⟩
  · intro hidentifiers p hp hname
    have hself : m.properties.map (·.name) = m.properties.map fun p =>
        CSharp.language.propertyIdentifier p.jsonName m.name := by
      rw [hgranted]
      refine Scope.claimAll_eq_self ?_ fun _ _ => List.not_mem_nil
      rwa [show Scope.key ⟨false, []⟩ = id from rfl, List.map_id]
    have hmem : p.name ∈ m.properties.map (·.name) := List.mem_map_of_mem hp
    rw [hself] at hmem
    obtain ⟨other, -, hother⟩ := List.mem_map.mp hmem
    exact propertyIdentifier_ne_bare hm other.jsonName (hother.trans hname)

/-- A class named like one of its properties with a number behind, of which two others have the
same identifier. -/
def numberedClass : Declaration where
  models := ⟨[("Pet1", { properties := ⟨[("pet", {}), ("Pet", {}), ("pet1", {})], by decide⟩ })],
    by decide⟩

theorem exists_property_named_as_class_numberedClass :
    ∃ m ∈ (ready CSharp.language numberedClass).models,
      (∃ p ∈ m.properties, p.name = bare m.name) ∧
      ∃ before p after, m.properties = before ++ p :: after ∧ ∃ n, 0 < n ∧
        bare m.name =
          Scope.numbered (CSharp.language.propertyIdentifier p.jsonName m.name) n ∧
        ∀ k < n, Scope.numbered (CSharp.language.propertyIdentifier p.jsonName m.name) k ∈
          before.map (·.name) := by
  have hshown : ∃ m ∈ (ready CSharp.language numberedClass).models,
      ∃ p ∈ m.properties, p.name = bare m.name := by
    decide +kernel
  obtain ⟨m, hm, hnamed⟩ := hshown
  exact ⟨m, hm, hnamed, (exists_property_named_as_class_iff hm).1.mp hnamed⟩

/-- The second property gets the name of its class, although the third one, whose identifier this
is, gets another ending so as not to have it. -/
theorem property_named_as_class_numberedClass :
    ∃ m ∈ (ready CSharp.language numberedClass).models, m.name = "Pet1" ∧
      m.properties.map (·.name) = ["Pet", "Pet1", "Pet1Value"] ∧
        ∃ p ∈ m.properties, p.name = bare m.name := by
  decide +kernel

end Converter

end Stencil
