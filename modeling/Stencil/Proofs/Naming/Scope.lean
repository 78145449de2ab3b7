import Mathlib.Data.List.Nodup
import Mathlib.Data.List.Perm.Subperm
import Stencil.Naming.Unique

/-!
# Names handed out by a scope

A scope tells names apart by their keys. The key of a numbered name is the numbered key, also
where case is ignored: a digit ends a word without being part of it, so that what stands in
front of a number has the lower case it has alone. A scope thus never runs out of numbers, and
the names it hands out have different keys.

## Main results

* `Scope.key_numbered`: the key of a numbered name is the numbered key
* `Scope.key_claim_notMem`: the key of a claimed name was free
* `Scope.nodup_keys_claimAll`: names claimed one after the other have different keys
* `Scope.claimAll_append`: later names are claimed in the scope that earlier ones leave
-/

namespace Stencil

/-! ## Lower case in front of numbers -/

namespace Text

/-- What holds of the characters up to the digit nine holds of all digits. -/
theorem forall_isDigit {P : Char → Prop} (h : ∀ n < 58, 48 ≤ n → P (Char.ofNat n)) {d : Char}
    (hd : d.isDigit = true) : P d := by
  obtain ⟨hlow, hhigh⟩ := Char.isDigit_iff_toNat.mp hd
  have hcode := h d.toNat (Nat.lt_succ_of_le hhigh) hlow
  rwa [Char.ofNat_toNat] at hcode

theorem isCased_of_isDigit {d : Char} (hd : d.isDigit = true) : isCased d = false := by
  apply forall_isDigit _ hd
  decide

theorem isCaseIgnorable_of_isDigit {d : Char} (hd : d.isDigit = true) :
    isCaseIgnorable d = false := by
  apply forall_isDigit _ hd
  decide +kernel

theorem lower_of_isDigit {d : Char} (hd : d.isDigit = true) : lower d = [d] := by
  apply @forall_isDigit (fun d => lower d = [d]) _ d hd
  decide

/-- A digit behind a text does not tell whether a cased character comes first in it. -/
theorem startsCased_append_digit (cs ds : List Char) {d : Char} (hd : d.isDigit = true) :
    startsCased (cs ++ d :: ds) = startsCased cs := by
  unfold startsCased
  rw [List.dropWhile_append]
  cases hcs : cs.dropWhile isCaseIgnorable with
  | nil => simp [isCaseIgnorable_of_isDigit hd, isCased_of_isDigit hd]
  | cons c rest => simp

theorem lowerFrom_digits (before : List Char) {ds : List Char}
    (hds : ∀ d ∈ ds, d.isDigit = true) : lowerFrom before ds = ds := by
  induction ds generalizing before with
  | nil => rfl
  | cons d ds ih =>
    have hd := hds d List.mem_cons_self
    -- Only a final sigma looks at the text around it.
    have hsigma : d ≠ 'Σ' := by
      rintro rfl
      revert hd
      decide
    rw [lowerFrom, if_neg hsigma, lower_of_isDigit hd,
      ih _ fun d hd => hds d (List.mem_cons_of_mem _ hd)]
    rfl

/-- **Digits behind a text** keep their place in lower case, and the text in front of them has
the lower case it has alone. -/
theorem lowerFrom_append_digits (before cs : List Char) {ds : List Char}
    (hds : ∀ d ∈ ds, d.isDigit = true) :
    lowerFrom before (cs ++ ds) = lowerFrom before cs ++ ds := by
  induction cs generalizing before with
  | nil => simp [lowerFrom_digits before hds, lowerFrom]
  | cons c cs ih =>
    -- A sigma is final or not whether or not the digits are there.
    have hstarts : startsCased (cs ++ ds) = startsCased cs := by
      cases ds with
      | nil => simp
      | cons d ds => exact startsCased_append_digit cs ds (hds d List.mem_cons_self)
    simp only [List.cons_append, lowerFrom, ih, hstarts, List.append_assoc]

end Text

namespace Naming.Scope

/-! ## Numbered names -/

@[simp] theorem numbered_zero (name : String) : numbered name 0 = name := rfl

theorem toList_numbered_succ (name : String) (n : Nat) :
    (numbered name (n + 1)).toList = name.toList ++ Nat.toDigits 10 (n + 1) := by
  simp [numbered, Nat.toString_eq_repr, Nat.toList_repr]

/-- A numbered name is the name with digits behind it. -/
theorem exists_digits (n : Nat) : ∃ digits : List Char, (∀ d ∈ digits, d.isDigit = true) ∧
    ∀ name, (numbered name n).toList = name.toList ++ digits := by
  cases n with
  | zero => exact ⟨[], by simp, by simp⟩
  | succ n =>
    refine ⟨Nat.toDigits 10 (n + 1), fun d hd => ?_, fun name => toList_numbered_succ name n⟩
    exact Nat.isDigit_of_mem_toDigits (by decide) (by decide) hd

theorem numbered_injective (name : String) : Function.Injective (numbered name) := by
  intro m n h
  have h := congrArg String.toList h
  cases m with
  | zero =>
    cases n with
    | zero => rfl
    | succ n =>
      rw [numbered_zero, toList_numbered_succ] at h
      exact absurd (List.self_eq_append_right.mp h) Nat.toDigits_ne_nil
  | succ m =>
    cases n with
    | zero =>
      rw [numbered_zero, toList_numbered_succ] at h
      exact absurd (List.append_right_eq_self.mp h) Nat.toDigits_ne_nil
    | succ n =>
      -- The digits of a number are read back as the number.
      rw [toList_numbered_succ, toList_numbered_succ] at h
      have h := congrArg (Nat.ofDigitChars 10 · 0) (List.append_cancel_left h)
      simpa using h

theorem lowerText_numbered (name : String) (n : Nat) :
    Text.lowerText (numbered name n) = numbered (Text.lowerText name) n := by
  obtain ⟨digits, hdigits, hname⟩ := exists_digits n
  rw [← String.toList_inj, hname, Text.lowerText, hname,
    Text.lowerFrom_append_digits [] _ hdigits]
  simp [Text.lowerText]

/-- **The key of a numbered name** is the numbered key. -/
theorem key_numbered (scope : Scope) (name : String) (n : Nat) :
    scope.key (numbered name n) = numbered (scope.key name) n := by
  unfold key
  split
  · exact lowerText_numbered name n
  · rfl

/-! ## Claims -/

/-- Among as many variants of a name as there are taken names and one more, one is free. -/
theorem exists_free (scope : Scope) (name : String) :
    ∃ n ∈ List.range (scope.taken.length + 1), scope.key (numbered name n) ∉ scope.taken := by
  by_contra hnone
  push Not at hnone
  -- The variants have different keys, and there are more of them than taken ones.
  let variants := (List.range (scope.taken.length + 1)).map (numbered (scope.key name))
  have hnodup : variants.Nodup := List.Nodup.map (numbered_injective _) List.nodup_range
  have htaken : variants ⊆ scope.taken := by
    intro variant hvariant
    obtain ⟨n, hn, rfl⟩ := List.mem_map.mp hvariant
    rw [← key_numbered]
    exact hnone n hn
  have hlength := (hnodup.subperm htaken).length_le
  simp only [variants, List.length_map, List.length_range] at hlength
  omega

theorem key_freeNumber_notMem (scope : Scope) (name : String) :
    scope.key (numbered name (scope.freeNumber name)) ∉ scope.taken := by
  obtain ⟨m, hm, hfree⟩ := exists_free scope name
  unfold freeNumber
  cases hfind : (List.range (scope.taken.length + 1)).find? fun n =>
      !scope.taken.contains (scope.key (numbered name n)) with
  | none => exact absurd (by simpa using hfree) (List.find?_eq_none.mp hfind m hm)
  | some n => simpa using List.find?_some hfind

@[simp] theorem claim_fst (scope : Scope) (name : String) :
    (scope.claim name).1 = numbered name (scope.freeNumber name) := rfl

@[simp] theorem key_claim (scope : Scope) (name : String) :
    (scope.claim name).2.key = scope.key := rfl

@[simp] theorem taken_claim (scope : Scope) (name : String) :
    (scope.claim name).2.taken = scope.key (scope.claim name).1 :: scope.taken := rfl

/-- The key of a claimed name was free. -/
theorem key_claim_notMem (scope : Scope) (name : String) :
    scope.key (scope.claim name).1 ∉ scope.taken :=
  key_freeNumber_notMem scope name

theorem claimAll_cons (scope : Scope) (name : String) (names : List String) :
    scope.claimAll (name :: names) =
      (scope.claim name).1 :: (scope.claim name).2.claimAll names := rfl

theorem key_notMem_of_mem_claimAll {scope : Scope} {names : List String} {granted : String}
    (h : granted ∈ scope.claimAll names) : scope.key granted ∉ scope.taken := by
  induction names generalizing scope with
  | nil => simp [claimAll] at h
  | cons name names ih =>
    rw [claimAll_cons] at h
    rcases List.mem_cons.mp h with rfl | h
    · exact key_claim_notMem scope name
    · have hmem := ih h
      rw [key_claim, taken_claim] at hmem
      exact fun htaken => hmem (List.mem_cons_of_mem _ htaken)

/-- **Names claimed one after the other** have different keys. -/
theorem nodup_keys_claimAll (scope : Scope) (names : List String) :
    ((scope.claimAll names).map scope.key).Nodup := by
  induction names generalizing scope with
  | nil => exact .nil
  | cons name names ih =>
    rw [claimAll_cons, List.map_cons]
    refine List.nodup_cons.mpr ⟨fun hmem => ?_, ih (scope.claim name).2⟩
    obtain ⟨granted, hgranted, hkey⟩ := List.mem_map.mp hmem
    have hfree := key_notMem_of_mem_claimAll hgranted
    rw [key_claim, taken_claim] at hfree
    exact hfree (by rw [hkey]; exact List.mem_cons_self)

theorem nodup_claimAll (scope : Scope) (names : List String) : (scope.claimAll names).Nodup :=
  List.Nodup.of_map scope.key (nodup_keys_claimAll scope names)

@[simp] theorem length_claimAll (scope : Scope) (names : List String) :
    (scope.claimAll names).length = names.length := by
  induction names generalizing scope with
  | nil => rfl
  | cons name names ih => rw [claimAll_cons, List.length_cons, List.length_cons, ih]

/-- A granted name is a claimed one with a number behind it. -/
theorem exists_numbered_of_mem_claimAll {scope : Scope} {names : List String} {granted : String}
    (h : granted ∈ scope.claimAll names) : ∃ name ∈ names, ∃ n, granted = numbered name n := by
  induction names generalizing scope with
  | nil => exact absurd h List.not_mem_nil
  | cons name names ih =>
    rw [claimAll_cons] at h
    rcases List.mem_cons.mp h with rfl | h
    · exact ⟨name, List.mem_cons_self, scope.freeNumber name, rfl⟩
    · obtain ⟨other, hother, n, hn⟩ := ih h
      exact ⟨other, List.mem_cons_of_mem _ hother, n, hn⟩

/-- The scope behind names that are claimed one after the other. -/
def afterAll (scope : Scope) (names : List String) : Scope :=
  names.foldl (fun scope name => (scope.claim name).2) scope

@[simp] theorem afterAll_nil (scope : Scope) : scope.afterAll [] = scope := rfl

@[simp] theorem afterAll_cons (scope : Scope) (name : String) (names : List String) :
    scope.afterAll (name :: names) = (scope.claim name).2.afterAll names := rfl

/-- **Later names** are claimed in the scope that the earlier ones leave. -/
theorem claimAll_append (scope : Scope) (names others : List String) :
    scope.claimAll (names ++ others) =
      scope.claimAll names ++ (scope.afterAll names).claimAll others := by
  induction names generalizing scope with
  | nil => rfl
  | cons name names ih =>
    rw [List.cons_append, claimAll_cons, ih, claimAll_cons, List.cons_append, afterAll_cons]

end Naming.Scope

end Stencil
