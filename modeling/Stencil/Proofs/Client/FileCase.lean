import Stencil.Proofs.Client.ClassNames
import Stencil.Proofs.Language.Legal
import Stencil.Proofs.Text.FinalSigma

/-!
# Files without regard to case

The files of classes differ in the lower case of whole names, where a capital sigma at the end of
a word has a lower case of its own. A file system that looks at each character by itself does not
see this, so that two names with a sigma at the end of a word, a capital and a small one, are
granted side by side and are the same file there.

## Main results

* `TypeScript.sigma_notMem`: names in TypeScript hold no sigma
* `Converter.nodup_lowerEach_fileNames_iff`: when the files of classes differ by more than the case
  of their characters
-/

namespace Stencil

open Naming

theorem TypeScript.sigma_notMem {declaration : Declaration} {m : Client.ModelDescriptor}
    (hm : m ∈ (Converter.ready TypeScript.language declaration).models) :
    'Σ' ∉ m.fileName.toList := by
  obtain ⟨n, hn⟩ := Converter.exists_numbered_name hm
  have hlegal : TypeScript.IsLegal m.name := by
    rw [hn]
    exact (TypeScript.isLegal_sanitize (capitalize m.declaredName.toList)).numbered n
  rw [Converter.fileName_eq_bare TypeScript.namesFiles hm, bare, String.toList_ofList]
  intro hsigma
  exact absurd (hlegal.chars 'Σ' (mem_of_mem_bareChars hsigma)) (by decide)

namespace Converter

variable {language : Language}

/-- **Files without regard to case**: the files of the classes differ by more than the case of
their characters exactly if no two of them are alike but for case with a capital sigma at the end
of a word in the one and a small sigma in the other. In TypeScript they always differ so. -/
theorem nodup_lowerEach_fileNames_iff {key : String}
    (h : Registry.builtin.resolve key = .ok language) (declaration : Declaration) :
    (((ready language declaration).models.map fun m => Text.lowerEach m.fileName).Nodup ↔
        ∀ m ∈ (ready language declaration).models, ∀ other ∈ (ready language declaration).models,
          ¬ Text.SigmaTwins m.fileName other.fileName) ∧
      (language = TypeScript.language →
        ((ready language declaration).models.map fun m => Text.lowerEach m.fileName).Nodup) := by
  have hlower := nodup_lower_fileNames (Registry.namesFiles_of_resolve h) declaration
  have hiff : ((ready language declaration).models.map fun m => Text.lowerEach m.fileName).Nodup ↔
      ∀ m ∈ (ready language declaration).models, ∀ other ∈ (ready language declaration).models,
        ¬ Text.SigmaTwins m.fileName other.fileName := by
    rw [List.nodup_map_iff_inj_on (List.Nodup.of_map _ hlower)]
    constructor
    · -- Twins would be two files of one model.
      intro hinj m hm other hother htwins
      obtain rfl := hinj m hm other hother htwins.lowerEach_eq
      exact htwins.lowerText_ne rfl
    · intro hnone m hm other hother halike
      refine List.inj_on_of_nodup_map hlower hm hother ?_
      exact (Text.lowerText_eq_iff halike).mpr ⟨hnone m hm other hother, hnone other hother m hm⟩
  refine ⟨hiff, ?_⟩
  rintro rfl
  rw [hiff]
  rintro m hm other - ⟨before, after, -, -, hname, -⟩
  refine TypeScript.sigma_notMem hm ?_
  rw [hname]
  exact List.mem_append_right _ List.mem_cons_self

/-- Two models whose names end in a sigma, a capital and a small one. -/
def finalSigmas : Declaration where
  models := ⟨[("aΣ", {}), ("aσ", {})], by decide⟩

theorem map_fileName_finalSigmas :
    (ready CSharp.language finalSigmas).models.map (·.fileName) = ["aΣ", "aσ"] := by
  decide +kernel

theorem not_nodup_lowerEach_finalSigmas :
    ¬ ((ready CSharp.language finalSigmas).models.map fun m =>
      Text.lowerEach m.fileName).Nodup := by
  have hfiles := congrArg (List.map Text.lowerEach) map_fileName_finalSigmas
  rw [List.map_map] at hfiles
  have hlower : ["aΣ", "aσ"].map Text.lowerEach = ["aσ", "aσ"] := by decide +kernel
  intro hnodup
  exact absurd ((hfiles.trans hlower) ▸ hnodup) (by decide)

theorem nodup_lowerEach_fileNames_finalSigmas :
    Registry.builtin.resolve "typescript" = .ok TypeScript.language ∧
      ((ready TypeScript.language finalSigmas).models.map fun m =>
        Text.lowerEach m.fileName).Nodup ∧
      Registry.builtin.resolve "c#" = .ok CSharp.language ∧
      ¬ ∀ m ∈ (ready CSharp.language finalSigmas).models,
        ∀ other ∈ (ready CSharp.language finalSigmas).models,
          ¬ Text.SigmaTwins m.fileName other.fileName := by
  refine ⟨rfl, ?_, rfl, fun hnone => not_nodup_lowerEach_finalSigmas ?_⟩
  · exact (@nodup_lowerEach_fileNames_iff TypeScript.language "typescript" rfl finalSigmas).2 rfl
  · exact (@nodup_lowerEach_fileNames_iff CSharp.language "c#" rfl finalSigmas).1.mpr hnone

/-- The files of both models are alike but for case. -/
theorem lowerEach_eq_finalSigmas :
    (ready CSharp.language finalSigmas).models.map (·.fileName) = ["aΣ", "aσ"] ∧
      ¬ ((ready CSharp.language finalSigmas).models.map fun m =>
        Text.lowerEach m.fileName).Nodup :=
  ⟨map_fileName_finalSigmas, not_nodup_lowerEach_finalSigmas⟩

end Converter

end Stencil
