import Stencil.Proofs.Naming.Scope

/-!
# Which names are granted

A claim is granted the name with the least number whose key is free. What a scope has taken are
the keys of the names that it granted, so that the number a claim gets can be read off the names
in front of it. A name whose numbered variants no other claim can get is granted with the numbers
from zero up, one for each time it is claimed.

## Main results

* `Scope.freeNumber_eq_iff`: the number of a claim is the least that is free
* `Scope.granted_eq_numbered_iff_key`: the number of a claim among claims, by the names granted in
  front of it
* `Scope.claimAll_eq_self`: names with different keys are granted as they are
* `Scope.numbered_mem_claimAll_iff`: the numbers granted to a name that shares no variant
-/

namespace Stencil.Naming.Scope

/-! ## The least free number -/

/-- All variants in front of the one that is granted are taken. -/
theorem key_mem_taken_of_lt_freeNumber {scope : Scope} {name : String} {k : Nat}
    (h : k < scope.freeNumber name) : scope.key (numbered name k) ∈ scope.taken := by
  obtain ⟨m, hm, hfree⟩ := exists_free scope name
  unfold freeNumber at h
  cases hfind : (List.range (scope.taken.length + 1)).find? fun n =>
      !scope.taken.contains (scope.key (numbered name n)) with
  | none => exact absurd (by simpa using hfree) (List.find?_eq_none.mp hfind m hm)
  | some n =>
    rw [hfind, Option.getD_some] at h
    have htaken := (List.find?_range_eq_some.mp hfind).2.2 k h
    simpa using htaken

/-- **The number of a claim** is the least whose variant of the name is free. -/
theorem freeNumber_eq_iff {scope : Scope} {name : String} {n : Nat} :
    scope.freeNumber name = n ↔
      (∀ k < n, scope.key (numbered name k) ∈ scope.taken) ∧
        scope.key (numbered name n) ∉ scope.taken := by
  constructor
  · rintro rfl
    exact ⟨fun k hk => key_mem_taken_of_lt_freeNumber hk, key_freeNumber_notMem scope name⟩
  · rintro ⟨htaken, hfree⟩
    -- A lesser number would be taken, and a greater one leave this one out.
    refine Nat.le_antisymm (Nat.le_of_not_lt fun hlt => ?_) (Nat.le_of_not_lt fun hlt => ?_)
    · exact hfree (key_mem_taken_of_lt_freeNumber hlt)
    · exact key_freeNumber_notMem scope name (htaken _ hlt)

/-! ## Claims behind others -/

@[simp] theorem key_afterAll (scope : Scope) (names : List String) :
    (scope.afterAll names).key = scope.key := by
  induction names generalizing scope with
  | nil => rfl
  | cons name names ih => rw [afterAll_cons, ih, key_claim]

/-- Claims take the keys of the names they are granted. -/
theorem mem_taken_afterAll {scope : Scope} {names : List String} {key : String} :
    key ∈ (scope.afterAll names).taken ↔
      key ∈ (scope.claimAll names).map scope.key ∨ key ∈ scope.taken := by
  induction names generalizing scope with
  | nil => simp [claimAll]
  | cons name names ih =>
    rw [afterAll_cons, ih, key_claim, taken_claim, claimAll_cons, List.map_cons, List.mem_cons,
      List.mem_cons]
    tauto

section Items

variable {α : Type} {items before after : List α} {item : α} {claimed granted : α → String}

/-- Items that are granted the names they claim: each claims its name in the scope that the items
in front of it leave, which are granted theirs. -/
theorem granted_eq_claim {scope : Scope}
    (h : items.map granted = scope.claimAll (items.map claimed))
    (hitems : items = before ++ item :: after) :
    before.map granted = scope.claimAll (before.map claimed) ∧
      granted item = ((scope.afterAll (before.map claimed)).claim (claimed item)).1 := by
  subst hitems
  rw [List.map_append, List.map_append, claimAll_append, List.map_cons, List.map_cons,
    claimAll_cons] at h
  obtain ⟨hbefore, hitem⟩ := List.append_inj h (by simp)
  exact ⟨hbefore, (List.cons.inj hitem).1⟩

/-- **The number of a claim among claims**: where items are granted the names that they claim,
an item has the number `n` behind its name if the keys of all lesser ones are granted to items in
front of it and the key of `n` is not. -/
theorem granted_eq_numbered_iff_key {ignoresCase : Bool}
    (h : items.map granted = claimAll ⟨ignoresCase, []⟩ (items.map claimed))
    (hitems : items = before ++ item :: after) {n : Nat} :
    granted item = numbered (claimed item) n ↔
      (∀ k < n, key ⟨ignoresCase, []⟩ (numbered (claimed item) k) ∈
        before.map fun other => key ⟨ignoresCase, []⟩ (granted other)) ∧
        key ⟨ignoresCase, []⟩ (numbered (claimed item) n) ∉
          before.map fun other => key ⟨ignoresCase, []⟩ (granted other) := by
  obtain ⟨hbefore, hgranted⟩ := granted_eq_claim h hitems
  have htaken : ∀ name, name ∈ (afterAll ⟨ignoresCase, []⟩ (before.map claimed)).taken ↔
      name ∈ before.map fun other => key ⟨ignoresCase, []⟩ (granted other) := by
    intro name
    rw [mem_taken_afterAll, ← hbefore, List.map_map]
    exact or_iff_left List.not_mem_nil
  rw [hgranted, claim_fst, (numbered_injective _).eq_iff, freeNumber_eq_iff, key_afterAll]
  simp only [htaken]

/-- Where case is not ignored, names are their own keys. -/
theorem granted_eq_numbered_iff
    (h : items.map granted = claimAll ⟨false, []⟩ (items.map claimed))
    (hitems : items = before ++ item :: after) {n : Nat} :
    granted item = numbered (claimed item) n ↔
      (∀ k < n, numbered (claimed item) k ∈ before.map granted) ∧
        numbered (claimed item) n ∉ before.map granted :=
  granted_eq_numbered_iff_key h hitems

end Items

/-- Names with different keys, all of them free, are granted as they are. -/
theorem claimAll_eq_self {scope : Scope} {names : List String}
    (hnames : (names.map scope.key).Nodup)
    (hfree : ∀ name ∈ names, scope.key name ∉ scope.taken) : scope.claimAll names = names := by
  induction names generalizing scope with
  | nil => rfl
  | cons name names ih =>
    rw [List.map_cons, List.nodup_cons] at hnames
    have hnumber : scope.freeNumber name = 0 :=
      freeNumber_eq_iff.mpr ⟨by simp, hfree name List.mem_cons_self⟩
    have hgranted : (scope.claim name).1 = name := by rw [claim_fst, hnumber, numbered_zero]
    rw [claimAll_cons, hgranted, ih]
    · exact hnames.2
    · intro other hother
      rw [key_claim, taken_claim, hgranted, List.mem_cons, not_or]
      refine ⟨fun heq => hnames.1 ?_, hfree other (List.mem_cons_of_mem _ hother)⟩
      exact heq ▸ List.mem_map_of_mem hother

/-! ## Names that share no variant -/

/-- Names without digits share a variant only if they are the same. -/
theorem eq_of_numbered_eq {name other : String}
    (hname : ∀ c ∈ name.toList, ¬ c.isDigit = true)
    (hother : ∀ c ∈ other.toList, ¬ c.isDigit = true) {m n : Nat}
    (h : numbered name m = numbered other n) : name = other := by
  -- Each name is what its variant has in front of the first digit.
  have hfront : ∀ (name : String), (∀ c ∈ name.toList, ¬ c.isDigit = true) → ∀ n,
      (numbered name n).toList.takeWhile (fun c => !c.isDigit) = name.toList := by
    intro name hname n
    obtain ⟨digits, hdigits, hnumbered⟩ := exists_digits n
    rw [hnumbered, List.takeWhile_append_of_pos (by simpa using hname)]
    cases digits with
    | nil => simp
    | cons d ds => simp [hdigits d List.mem_cons_self]
  rw [← String.toList_inj, ← hfront name hname m, h, hfront other hother n]

/-- The numbers granted to a name in a scope that has taken those below `t` already. -/
theorem numbered_mem_claimAll_iff_of_taken {name : String} {names : List String}
    (halone : ∀ other ∈ names, ∀ m n, numbered other m = numbered name n → other = name)
    {scope : Scope} (hcase : scope.ignoresCase = false) {t : Nat}
    (htaken : ∀ k, numbered name k ∈ scope.taken ↔ k < t) {n : Nat} :
    numbered name n ∈ scope.claimAll names ↔ t ≤ n ∧ n < t + names.count name := by
  induction names generalizing scope t with
  | nil =>
    simp only [claimAll, List.not_mem_nil, List.count_nil, false_iff]
    omega
  | cons other names ih =>
    have hkey : ∀ name, scope.key name = name := fun name => by simp [key, hcase]
    have hcase' : (scope.claim other).2.ignoresCase = false := hcase
    have hothers := fun other hother => halone other (List.mem_cons_of_mem _ hother)
    rw [claimAll_cons, List.mem_cons, claim_fst]
    by_cases heq : other = name
    · -- The name itself gets the number `t`, and the next one has `t + 1` numbers taken.
      subst heq
      have hnumber : scope.freeNumber other = t :=
        freeNumber_eq_iff.mpr ⟨fun k hk => by rw [hkey]; exact (htaken k).mpr hk,
          by rw [hkey, htaken]; omega⟩
      have htaken' : ∀ k, numbered other k ∈ (scope.claim other).2.taken ↔ k < t + 1 := by
        intro k
        rw [taken_claim, hkey, claim_fst, hnumber, List.mem_cons, (numbered_injective _).eq_iff,
          htaken]
        omega
      rw [ih hothers hcase' htaken', hnumber, (numbered_injective _).eq_iff,
        List.count_cons_self]
      omega
    · -- Another name is granted something else, which takes no variant.
      have hne : ∀ k m, numbered name k ≠ numbered other m := fun k m h =>
        heq (halone other List.mem_cons_self m k h.symm)
      have htaken' : ∀ k, numbered name k ∈ (scope.claim other).2.taken ↔ k < t := by
        intro k
        rw [taken_claim, hkey, claim_fst, List.mem_cons, htaken]
        simp [hne]
      rw [ih hothers hcase' htaken', List.count_cons_of_ne heq]
      simp [hne]

/-- A name without digits has no number behind it. -/
theorem eq_zero_of_forall_not_isDigit {name : String} {n : Nat}
    (h : ∀ c ∈ (numbered name n).toList, ¬ c.isDigit = true) : n = 0 := by
  cases n with
  | zero => rfl
  | succ n =>
    obtain ⟨digit, hmem⟩ := List.exists_mem_of_ne_nil (Nat.toDigits 10 (n + 1)) Nat.toDigits_ne_nil
    refine absurd (Nat.isDigit_of_mem_toDigits (by decide) (by decide) hmem) (h digit ?_)
    rw [toList_numbered_succ]
    exact List.mem_append_right _ hmem

/-- **Names that share no variant** with others are granted with the numbers below the number of
their claims. -/
theorem numbered_mem_claimAll_iff {name : String} {names : List String}
    (halone : ∀ other ∈ names, ∀ m n, numbered other m = numbered name n → other = name)
    {n : Nat} : numbered name n ∈ claimAll ⟨false, []⟩ names ↔ n < names.count name := by
  rw [numbered_mem_claimAll_iff_of_taken halone rfl (t := 0) (by simp)]
  simp

end Stencil.Naming.Scope
