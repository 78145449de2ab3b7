import Stencil.Client.Registry
import Stencil.Proofs.Keyed

/-!
# Registries after registrations

A registry follows a history: the registrations it starts with, and then one after the other those
that are made. It has the keys of the history, each once and in the order of their bytes, and under
each key the language that came last. A registration is one more step of the history, which changes
nothing about any other key.

## Main definitions

* `Registry.Origin`: the two registries that registrations start from, with their histories
* `Registry.registerAll start calls`: the registry after registrations
* `Registry.LastOf history key language`: the last registration of a key in a history
* `Registry.Follows registry history`: a registry is what a history leaves

## Main results

* `Registry.Follows.register`: one registration
* `Registry.Follows.registerAll`: registrations one after the other
* `Registry.resolve_registerAll`: what is found under a key, and which keys there are
-/

namespace Stencil.Registry

open Text (bytes)

/-! ## Histories -/

/-- The registration of a language under a key. -/
abbrev Registration := String × Language

/-- What registrations start from. -/
inductive Origin where
  /-- Nothing is registered. -/
  | empty
  /-- The languages that come with the generator are. -/
  | shipped
deriving DecidableEq, Repr

namespace Origin

/-- The registry that registrations start from. -/
def registry : Origin → Registry
  | empty => {}
  | shipped => .builtin

/-- The registrations that it holds. -/
def history : Origin → List Registration
  | empty => []
  | shipped => [("c#", CSharp.language), ("typescript", TypeScript.language)]

end Origin

/-- The registry after registrations, one after the other. -/
def registerAll (start : Registry) (calls : List Registration) : Registry :=
  calls.foldl (fun registry call => registry.register call.1 call.2) start

/-- The registry after registrations from one of the origins. -/
def Origin.after (origin : Origin) (calls : List Registration) : Registry :=
  origin.registry.registerAll calls

/-- The language was the last one to be registered under the key, which is compared character by
character. -/
def LastOf (history : List Registration) (key : String) (language : Language) : Prop :=
  ∃ before after, history = before ++ (key, language) :: after ∧ key ∉ after.map (·.1)

/-- The last registration is the first one from behind. -/
theorem lookup_reverse_eq_some_iff {history : List Registration} {key : String}
    {language : Language} :
    history.reverse.lookup key = some language ↔ LastOf history key language := by
  rw [List.lookup_eq_some_iff]
  constructor
  · rintro ⟨after, before, hhistory, hafter⟩
    refine ⟨before.reverse, after.reverse, ?_, ?_⟩
    · simpa using congrArg List.reverse hhistory
    · intro hmem
      obtain ⟨call, hcall, hkey⟩ := List.mem_map.mp hmem
      have hne := hafter call (List.mem_reverse.mp hcall)
      simp [hkey] at hne
  · rintro ⟨before, after, rfl, hafter⟩
    refine ⟨after.reverse, before.reverse, by simp, fun call hcall => ?_⟩
    rw [bne_iff_ne]
    rintro rfl
    exact hafter (List.mem_map_of_mem (List.mem_reverse.mp hcall))

/-! ## Registries that follow a history -/

/-- A registry is what a history leaves: its keys in the strict order of their bytes, and the last
language of each. -/
structure Follows (registry : Registry) (history : List Registration) : Prop where
  sorted : registry.keys.Pairwise (· < ·)
  mem_keys : ∀ key, key ∈ registry.keys ↔ key ∈ history.map (·.1)
  get? : ∀ key, registry.entries.get? key = history.reverse.lookup key

namespace Follows

variable {registry : Registry} {history : List Registration}

/-- **One registration** is one more step of the history. -/
theorem register (h : registry.Follows history) (key : String) (language : Language) :
    (registry.register key language).Follows (history ++ [(key, language)]) where
  sorted := Keyed.pairwise_keys_set key language h.sorted
  mem_keys other := by
    have hother := h.mem_keys other
    simp only [keys] at hother
    simp [keys, Registry.register, Keyed.mem_keys_set, hother, or_comm]
  get? other := by
    rw [List.reverse_append, List.reverse_singleton, List.singleton_append, List.lookup_cons]
    by_cases hkey : other = key
    · subst hkey
      rw [beq_self_eq_true]
      exact Keyed.lookup_set_self other language registry.entries
    · rw [beq_eq_false_iff_ne.mpr hkey]
      exact (Keyed.lookup_set_of_ne hkey language registry.entries).trans (h.get? other)

/-- **Registrations** one after the other go on with the history. -/
theorem registerAll (h : registry.Follows history) (calls : List Registration) :
    (registry.registerAll calls).Follows (history ++ calls) := by
  -- Induction on the registrations that are still to be made.
  induction calls generalizing registry history with
  | nil =>
    rw [List.append_nil]
    exact h
  | cons call calls ih =>
    have hnext := ih (h.register call.1 call.2)
    rwa [List.append_assoc] at hnext

/-- **A key has the language** that was registered last. -/
theorem resolve_eq_ok_iff (h : registry.Follows history) {key : String} {language : Language} :
    registry.resolve key = .ok language ↔ LastOf history key language := by
  rw [← lookup_reverse_eq_some_iff, ← h.get?, resolve]
  cases registry.entries.get? key <;> simp

/-- The keys are determined by the history. -/
theorem keys_eq (h : registry.Follows history) :
    registry.keys = Text.inByteOrder (history.map (·.1)) :=
  Keyed.eq_inByteOrder h.sorted h.mem_keys

/-- A key that is there already gets no second place. -/
theorem keys_register (h : registry.Follows history) {key : String} (hkey : key ∈ registry.keys)
    (language : Language) : (registry.register key language).keys = registry.keys := by
  have hnext := h.register key language
  rw [h.keys_eq]
  apply Keyed.eq_inByteOrder hnext.sorted
  intro other
  rw [hnext.mem_keys, List.map_append, List.mem_append, List.map_singleton, List.mem_singleton]
  constructor
  · rintro (hother | rfl)
    · exact hother
    · exact (h.mem_keys _).mp hkey
  · exact Or.inl

/-- Another key keeps its language, or stays unknown. -/
theorem resolve_register_of_ne (h : registry.Follows history) {key other : String}
    (hne : other ≠ key) (language found : Language) :
    (registry.register key language).resolve other = .ok found ↔
      registry.resolve other = .ok found := by
  rw [(h.register key language).resolve_eq_ok_iff, h.resolve_eq_ok_iff,
    ← lookup_reverse_eq_some_iff, ← lookup_reverse_eq_some_iff, List.reverse_append,
    List.reverse_singleton, List.singleton_append, List.lookup_cons, beq_eq_false_iff_ne.mpr hne]

end Follows

/-- Each origin follows its own history. -/
theorem Origin.follows (origin : Origin) : origin.registry.Follows origin.history := by
  have hempty : Follows {} [] := ⟨.nil, fun _ => Iff.rfl, fun _ => rfl⟩
  cases origin with
  | empty => exact hempty
  | shipped => exact (hempty.register _ _).register _ _

/-! ## Registrations from the start -/

/-- No language is found under a key that is not registered. -/
theorem resolve_of_notMem {registry : Registry} {key : String} (h : key ∉ registry.keys) :
    registry.resolve key = .error (.unknownConverter key registry.keys) := by
  unfold resolve
  split
  · rename_i language hfound
    exact absurd (List.mem_map.mpr ⟨_, mem_of_lookup_eq_some hfound, rfl⟩) h
  · rfl

/-- **Registrations** from the empty registry or from the one that comes with the generator: a key
has the language that was registered last under exactly this key, and one that never was is
reported with the keys there are. These are all that ever were registered, in the strict order of
their bytes. One more registration adds no second place for a key that is there, and changes nothing
under another key. -/
theorem resolve_registerAll (origin : Origin) (calls : List Registration) :
    (∀ key language, (origin.after calls).resolve key = .ok language ↔
        LastOf (origin.history ++ calls) key language) ∧
      (∀ key, key ∉ (origin.history ++ calls).map (·.1) →
        (origin.after calls).resolve key =
          .error (.unknownConverter key (origin.after calls).keys)) ∧
      (origin.after calls).keys.Pairwise (fun s t => bytes s < bytes t) ∧
      (∀ key, key ∈ (origin.after calls).keys ↔
        key ∈ (origin.history ++ calls).map (·.1)) ∧
      ∀ key language,
        (key ∈ (origin.after calls).keys →
          ((origin.after calls).register key language).keys = (origin.after calls).keys) ∧
        ∀ other, other ≠ key → ∀ found,
          ((origin.after calls).register key language).resolve other = .ok found ↔
            (origin.after calls).resolve other = .ok found := by
  have hfollows : (origin.after calls).Follows (origin.history ++ calls) :=
    origin.follows.registerAll calls
  refine ⟨fun key language => hfollows.resolve_eq_ok_iff, ?_, ?_, hfollows.mem_keys, ?_⟩
  · intro key hkey
    apply resolve_of_notMem
    rwa [hfollows.mem_keys]
  · simpa only [Text.bytes_lt_iff] using hfollows.sorted
  · intro key language
    exact ⟨fun hkey => hfollows.keys_register hkey language,
      fun other hne found => hfollows.resolve_register_of_ne hne language found⟩

/-- Registrations under a new key, under a known one, and under one that differs from it by case
only. -/
def threeCalls : List Registration :=
  [("go", CSharp.language), ("c#", TypeScript.language), ("C#", CSharp.language)]

/-- The known key has its new language, and keeps it when another one is registered again; a key in
capitals is unknown. -/
theorem resolve_registerAll_threeCalls :
    (Origin.shipped.after threeCalls).keys = ["C#", "c#", "go", "typescript"] ∧
      "Go" ∉ (Origin.shipped.history ++ threeCalls).map (·.1) ∧
      (Origin.shipped.after threeCalls).resolve "Go" =
        .error (.unknownConverter "Go" ["C#", "c#", "go", "typescript"]) ∧
      "go" ∈ (Origin.shipped.after threeCalls).keys ∧
      ((Origin.shipped.after threeCalls).register "go" TypeScript.language).keys =
        ["C#", "c#", "go", "typescript"] ∧
      "c#" ≠ "go" ∧
      ((Origin.shipped.after threeCalls).register "go" TypeScript.language).resolve "c#" =
        .ok TypeScript.language := by
  have hunknown : "Go" ∉ (Origin.shipped.history ++ threeCalls).map (·.1) := by decide
  have hkeys : (Origin.shipped.after threeCalls).keys = ["C#", "c#", "go", "typescript"] := by
    decide
  have hgo : "go" ∈ (Origin.shipped.after threeCalls).keys := by
    rw [hkeys]
    decide
  have hne : "c#" ≠ "go" := by decide
  have hlast : LastOf (Origin.shipped.history ++ threeCalls) "c#" TypeScript.language :=
    ⟨Origin.shipped.history ++ [("go", CSharp.language)], [("C#", CSharp.language)], rfl,
      by decide⟩
  obtain ⟨hfound, hmissing, -, -, hagain⟩ := resolve_registerAll .shipped threeCalls
  have hfound := (hfound "c#" _).mpr hlast
  have hmissing := hmissing "Go" hunknown
  obtain ⟨hplace, hother⟩ := hagain "go" TypeScript.language
  have hplace := hplace hgo
  rw [hkeys] at hmissing hplace
  exact ⟨hkeys, hunknown, hmissing, hgo, hplace, hne, (hother "c#" hne _).mpr hfound⟩

end Stencil.Registry
