import Stencil.Proofs.Declaration.PlainReferences
import Stencil.Proofs.Json.Place

/-!
# Places in a text with plain references

A pass over a text goes over the part in front of a place and the part behind it on their own,
unless the place is inside a `$ref`. The place behind the first part is then known in the text and
in the text with plain references, and so is what stands between two such places.

## Main definitions

* `Reached cs k done rest`: a place that is not inside a `$ref`, with `k` dollar signs taken away
  in front of it
* `Cut cs k`: the same place in a text and in the text with plain references

## Main results

* `Cut.between_plain`: between two places stands the same text with plain references
* `Cut.between_eq`: the same text if there is no dollar sign between them
-/

namespace Stencil

open Json Json.Place

/-- A pass has gone over the characters `done` of a text, with `rest` in front of it and `k` dollar
signs taken away. -/
structure Reached (cs : List Char) (k : Nat) (done rest : List Char) : Prop where
  append_eq : done ++ rest = cs
  /-- What comes next is no part of a `$ref` that has begun. -/
  seam : ∀ more, more <+: rest →
    plainReferences (done ++ more) = plainReferences done ++ plainReferences more
  length_eq : done.length = (plainReferences done).length + k

namespace Reached

variable {cs done rest : List Char} {k : Nat}

theorem start (cs : List Char) : Reached cs 0 [] cs where
  append_eq := rfl
  seam _ _ := rfl
  length_eq := rfl

theorem plain_snoc {c : Char} (h : Reached cs k done (c :: rest)) :
    plainReferences (done ++ [c]) = plainReferences done ++ [c] := by
  rw [h.seam [c] ⟨rest, rfl⟩, plainReferences_cons]
  · rfl
  · rintro ⟨after, hafter⟩
    exact absurd (List.cons.inj hafter).2 (by simp)

/-- One more character, with no `$ref` in front of the pass. -/
theorem cons {c : Char} (h : Reached cs k done (c :: rest)) (hne : ¬ marked 1 <+: c :: rest) :
    Reached cs k (done ++ [c]) rest where
  append_eq := by rw [List.append_assoc, List.singleton_append, h.append_eq]
  seam more hmore := by
    have hnext : c :: more <+: c :: rest := List.cons_prefix_cons.mpr ⟨rfl, hmore⟩
    have hcons := plainReferences_cons fun hstarts => hne (hstarts.trans hnext)
    rw [h.plain_snoc, List.append_assoc, List.singleton_append, h.seam _ hnext, hcons,
      List.append_assoc, List.singleton_append]
  length_eq := by
    have hlength := h.length_eq
    rw [h.plain_snoc, List.length_append, List.length_append]
    omega

theorem plain_append_marked (h : Reached cs k done (marked 1 ++ rest)) :
    plainReferences (done ++ marked 1) = plainReferences done ++ marked 0 :=
  h.seam (marked 1) (List.prefix_append _ rest)

/-- A whole `$ref`. -/
theorem reference (h : Reached cs k done (marked 1 ++ rest)) :
    Reached cs (k + 1) (done ++ marked 1) rest where
  append_eq := by rw [List.append_assoc, h.append_eq]
  seam more hmore := by
    have hnext : marked 1 ++ more <+: marked 1 ++ rest := (List.prefix_append_right_inj _).mpr hmore
    rw [h.plain_append_marked, List.append_assoc, h.seam _ hnext, plainReferences_marked,
      List.append_assoc]
  length_eq := by
    have hlength := h.length_eq
    rw [h.plain_append_marked, List.length_append, List.length_append]
    simp only [marked, List.length_append, List.length_replicate]
    omega

theorem plain_eq (h : Reached cs k done rest) :
    plainReferences cs = plainReferences done ++ plainReferences rest := by
  rw [← h.append_eq, h.seam rest List.prefix_rfl]

end Reached

/-- A place in a text and the one in the text with plain references, where `k` dollar signs are
gone in front of it. -/
def Cut (cs : List Char) (k : Nat) (place place' : Place) : Prop :=
  ∃ done rest, Reached cs k done rest ∧ place = ({} : Place).afterAll done ∧
    place' = ({} : Place).afterAll (plainReferences done)

theorem Reached.cut {cs done rest : List Char} {k : Nat} (h : Reached cs k done rest) :
    Cut cs k (({} : Place).afterAll done) (({} : Place).afterAll (plainReferences done)) :=
  ⟨done, rest, h, rfl, rfl⟩

namespace Cut

variable {cs : List Char} {j k : Nat} {start start' stop stop' : Place}

/-- Two places are in the wrong order, or the characters between them are known. -/
theorem between_cases (hstart : Cut cs j start start') (hstop : Cut cs k stop stop') :
    (between start stop {} cs = [] ∧ between start' stop' {} (plainReferences cs) = []) ∨
      ∃ raw, between start stop {} cs = raw ∧
        between start' stop' {} (plainReferences cs) = plainReferences raw ∧
        raw.length + j = (plainReferences raw).length + k := by
  obtain ⟨done₁, rest₁, h₁, rfl, rfl⟩ := hstart
  obtain ⟨done₂, rest₂, h₂, rfl, rfl⟩ := hstop
  -- Both places are behind a part of the text, and the one part goes on with the other.
  have hprefix₁ : done₁ <+: cs := ⟨rest₁, h₁.append_eq⟩
  have hprefix₂ : done₂ <+: cs := ⟨rest₂, h₂.append_eq⟩
  rcases List.prefix_or_prefix_of_prefix hprefix₁ hprefix₂ with ⟨raw, rfl⟩ | ⟨more, rfl⟩
  · right
    have hraw : raw <+: rest₁ := by
      refine ⟨rest₂, ?_⟩
      rw [← List.append_cancel_left_eq done₁, h₁.append_eq, ← List.append_assoc, h₂.append_eq]
    have hseam := h₁.seam raw hraw
    refine ⟨raw, ?_, ?_, ?_⟩
    · rw [← h₂.append_eq]
      exact between_append {} done₁ raw rest₂
    · rw [h₂.plain_eq, hseam]
      exact between_append {} (plainReferences done₁) (plainReferences raw) (plainReferences rest₂)
    · have hlength₁ := h₁.length_eq
      have hlength₂ := h₂.length_eq
      rw [hseam, List.length_append, List.length_append] at hlength₂
      omega
  · left
    have hmore : more <+: rest₂ := by
      refine ⟨rest₁, ?_⟩
      rw [← List.append_cancel_left_eq done₂, h₂.append_eq, ← List.append_assoc, h₁.append_eq]
    rw [h₂.seam more hmore, afterAll_append, afterAll_append]
    exact ⟨between_of_not_before (not_afterAll_before _ more) _ _,
      between_of_not_before (not_afterAll_before _ (plainReferences more)) _ _⟩

/-- **Between two places** stands the same text with plain references. -/
theorem between_plain (hstart : Cut cs j start start') (hstop : Cut cs k stop stop') :
    between start' stop' {} (plainReferences cs) = plainReferences (between start stop {} cs) := by
  rcases hstart.between_cases hstop with ⟨hraw, hplain⟩ | ⟨raw, hraw, hplain, -⟩
  · rw [hraw, hplain]
    rfl
  · rw [hraw, hplain]

/-- It is the same text if no dollar sign between the places is gone. -/
theorem between_eq (hstart : Cut cs k start start') (hstop : Cut cs k stop stop') :
    between start' stop' {} (plainReferences cs) = between start stop {} cs := by
  rcases hstart.between_cases hstop with ⟨hraw, hplain⟩ | ⟨raw, hraw, hplain, hlength⟩
  · rw [hraw, hplain]
  · rw [hraw, hplain]
    exact (plainReferences_sublist raw).eq_of_length (Nat.add_right_cancel hlength).symm

end Cut

end Stencil
