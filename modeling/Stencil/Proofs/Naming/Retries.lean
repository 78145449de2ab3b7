import Mathlib.Order.Bounds.Basic
import Stencil.Proofs.Naming.Granted

/-!
# Retries of a claim

A claim tries the name, and while what it tries is taken it goes on with the next number. The
search ends after at most as many retries as names were handed out before, at the name itself or
at its least free number. What a scope has taken are the keys of the names that it handed out, all
of them different.

## Main definitions

* `Scope.StopsAfter scope name retries n`: the search from the number `n` on ends after so many
  retries
* `Scope.Grants scope name granted`: the name itself or its least free number
* `Scope.behind ignoresCase earlier`: the scope behind claims of which none was there before

## Main results

* `Scope.stopsAfter_iff`: where the search for a free name ends
* `Scope.taken_afterAll`: what is taken behind claims
* `Scope.claim_afterAll`: a claim behind any others
-/

namespace Stencil.Naming.Scope

/-- The search for a free variant of a name, from the number `n` on: a free one ends it, a taken
one is tried again with the next number. -/
inductive StopsAfter (scope : Scope) (name : String) : (retries n : Nat) → Prop
  | free {n : Nat} (hfree : scope.key (numbered name n) ∉ scope.taken) :
      StopsAfter scope name 0 n
  | retry {retries n : Nat} (htaken : scope.key (numbered name n) ∈ scope.taken)
      (hnext : StopsAfter scope name retries (n + 1)) : StopsAfter scope name (retries + 1) n

/-- A name is granted as it is if it is free, else with the least number that is free. -/
inductive Grants (scope : Scope) (name : String) : (granted : String) → Prop
  | plain (hfree : scope.key name ∉ scope.taken) : Grants scope name name
  | numbered {n : Nat} (htaken : scope.key name ∈ scope.taken)
      (hleast : IsLeast {n : Nat | 1 ≤ n ∧ scope.key (name ++ toString n) ∉ scope.taken} n) :
      Grants scope name (name ++ toString n)

/-! ## The search -/

section Search

variable {scope : Scope} {name : String} {retries n : Nat}

/-- The search ends where everything before is taken and the last variant is free. -/
theorem stopsAfter_iff_forall :
    scope.StopsAfter name retries n ↔
      (∀ k < retries, scope.key (numbered name (n + k)) ∈ scope.taken) ∧
        scope.key (numbered name (n + retries)) ∉ scope.taken := by
  -- Induction on the retries: the first variant is set aside, and the search goes on behind it.
  induction retries generalizing n with
  | zero =>
    constructor
    · rintro (hfree | _)
      exact ⟨nofun, hfree⟩
    · exact fun h => .free h.2
  | succ retries ih =>
    constructor
    · rintro (_ | ⟨htaken, hnext⟩)
      obtain ⟨hothers, hfree⟩ := ih.mp hnext
      refine ⟨fun k hk => ?_, ?_⟩
      · -- The first variant is taken, and the others are those that are tried next.
        cases k with
        | zero => exact htaken
        | succ k =>
          rw [show n + (k + 1) = n + 1 + k by omega]
          exact hothers k (by omega)
      · rwa [show n + (retries + 1) = n + 1 + retries by omega]
    · rintro ⟨htaken, hfree⟩
      refine .retry (htaken 0 (by omega)) (ih.mpr ⟨fun k hk => ?_, ?_⟩)
      · rw [show n + 1 + k = n + (k + 1) by omega]
        exact htaken (k + 1) (by omega)
      · rwa [show n + 1 + retries = n + (retries + 1) by omega]

/-- **The search for a free name** ends at the number that a claim is granted, and nowhere else. -/
theorem stopsAfter_iff : scope.StopsAfter name retries 0 ↔ retries = scope.freeNumber name := by
  rw [stopsAfter_iff_forall, eq_comm, freeNumber_eq_iff]
  simp only [Nat.zero_add]

theorem freeNumber_le_length (scope : Scope) (name : String) :
    scope.freeNumber name ≤ scope.taken.length := by
  obtain ⟨m, hm, hfree⟩ := exists_free scope name
  have hlast : m ≤ scope.taken.length := Nat.le_of_lt_succ (List.mem_range.mp hm)
  refine le_trans (Nat.le_of_not_lt fun hlt => ?_) hlast
  exact hfree (key_mem_taken_of_lt_freeNumber hlt)

theorem grants_claim (scope : Scope) (name : String) :
    scope.Grants name (scope.claim name).1 := by
  obtain ⟨htaken, hfree⟩ := freeNumber_eq_iff.mp (rfl : scope.freeNumber name = _)
  have hnumbered : ∀ n, 1 ≤ n → numbered name n = name ++ toString n := fun n hn =>
    if_neg (Nat.one_le_iff_ne_zero.mp hn)
  rw [claim_fst]
  cases hnumber : scope.freeNumber name with
  | zero =>
    rw [hnumber] at hfree
    exact .plain hfree
  | succ n =>
    rw [hnumber] at htaken hfree
    have hpos : 1 ≤ n + 1 := Nat.le_add_left 1 n
    rw [hnumbered (n + 1) hpos] at hfree ⊢
    refine .numbered (htaken 0 hpos) ⟨⟨hpos, hfree⟩, ?_⟩
    -- A lesser number is taken, as it was tried before.
    rintro m ⟨hm, hmfree⟩
    refine Nat.le_of_not_lt fun hlt => hmfree ?_
    rw [← hnumbered m hm]
    exact htaken m hlt

end Search

/-! ## What is taken -/

/-- **What is taken** behind claims are the keys of the names that they were granted. -/
theorem taken_afterAll (scope : Scope) (names : List String) :
    (scope.afterAll names).taken =
      ((scope.claimAll names).map scope.key).reverse ++ scope.taken := by
  induction names generalizing scope with
  | nil => rfl
  | cons name names ih =>
    rw [afterAll_cons, ih, key_claim, taken_claim, claimAll_cons, List.map_cons,
      List.reverse_cons, List.append_assoc]
    rfl

/-- A scope of which nothing was claimed. -/
def unclaimed (ignoresCase : Bool) : Scope := ⟨ignoresCase, []⟩

/-- The scope behind claims of which none was there before. -/
def behind (ignoresCase : Bool) (earlier : List String) : Scope :=
  (unclaimed ignoresCase).afterAll earlier

/-- What is taken behind claims are the keys of all names that were granted. -/
theorem taken_behind (ignoresCase : Bool) (earlier : List String) :
    (behind ignoresCase earlier).taken =
      (((unclaimed ignoresCase).claimAll earlier).map (behind ignoresCase earlier).key).reverse := by
  rw [behind, key_afterAll, taken_afterAll]
  exact List.append_nil _

/-- **A claim behind any others**, with or without regard to case: what is taken are the keys of
the names granted so far. The search for a free name ends, at one number only and after at most as
many retries as there were claims. The name is granted as it is if its key is free, and else with
the least number whose key is free, so that all names granted so far have different keys again. -/
theorem claim_afterAll (ignoresCase : Bool) (earlier : List String) (candidate : String) :
    (behind ignoresCase earlier).taken =
        (((unclaimed ignoresCase).claimAll earlier).map (behind ignoresCase earlier).key).reverse ∧
      (behind ignoresCase earlier).taken.length = earlier.length ∧
      (∃ retries ≤ (behind ignoresCase earlier).taken.length,
        ((behind ignoresCase earlier).claim candidate).1 = numbered candidate retries ∧
          ∀ n, (behind ignoresCase earlier).StopsAfter candidate n 0 ↔ n = retries) ∧
      (behind ignoresCase earlier).Grants candidate
        ((behind ignoresCase earlier).claim candidate).1 ∧
      (unclaimed ignoresCase).claimAll (earlier ++ [candidate]) =
        (unclaimed ignoresCase).claimAll earlier ++
          [((behind ignoresCase earlier).claim candidate).1] ∧
      (((unclaimed ignoresCase).claimAll (earlier ++ [candidate])).map
        (behind ignoresCase earlier).key).Nodup := by
  have htaken := taken_behind ignoresCase earlier
  refine ⟨htaken, ?_, ?_, grants_claim _ candidate, ?_, ?_⟩
  · rw [htaken, List.length_reverse, List.length_map, length_claimAll]
  · refine ⟨_, freeNumber_le_length _ candidate, rfl, fun n => ?_⟩
    exact stopsAfter_iff
  · exact claimAll_append (unclaimed ignoresCase) earlier [candidate]
  · -- Which scope gives the keys makes no difference.
    rw [behind, key_afterAll]
    exact nodup_keys_claimAll (unclaimed ignoresCase) (earlier ++ [candidate])

/-- The last name is the second one that was granted, but for its case. -/
example : (unclaimed true).claimAll ["Pet", "pet", "PET1"] = ["Pet", "pet1", "PET11"] := by
  decide +kernel

end Stencil.Naming.Scope
