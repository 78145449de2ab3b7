import Mathlib.Data.List.Dedup
import Mathlib.Data.List.Forall2
import Mathlib.Data.List.Induction
import Mathlib.Data.List.Perm.Subperm
import Mathlib.Data.List.Sort
import Stencil.Keyed
import Stencil.Proofs.Text.ByteOrder

/-!
# Pairs set one after the other

Setting the pairs of a list one after the other gives each key once: in the order of the keys,
which is that of their bytes, or at the place where the key was first written. A repeated key
has its last value.

## Main definitions

* `Text.inByteOrder keys`: keys, each once, in the order of their bytes
* `Written.settle pairs`: pairs with each key once, at its first place and with its last value

## Main results

* `Text.pair_sublist_inByteOrder_iff`: which of two texts comes first
* `Keyed.lookup_ofList`: the value of a key that was set
* `Keyed.eq_inByteOrder`: keys in strict order are determined by which keys there are
* `Written.foldl_setPair`: setting pairs one after the other settles them
-/

namespace Stencil

/-! ## Keys in order -/

namespace Text

/-- Texts, each once, in the order of their bytes. -/
def inByteOrder (texts : List String) : List String :=
  texts.dedup.insertionSort fun s t => bytes s ≤ bytes t

theorem mem_inByteOrder {text : String} {texts : List String} :
    text ∈ inByteOrder texts ↔ text ∈ texts := by
  rw [inByteOrder, List.mem_insertionSort, List.mem_dedup]

theorem pairwise_inByteOrder (texts : List String) : (inByteOrder texts).Pairwise (· < ·) := by
  have hnodup : (texts.dedup.insertionSort (· ≤ ·)).Nodup :=
    (List.perm_insertionSort (· ≤ ·) texts.dedup).nodup_iff.mpr (List.nodup_dedup texts)
  have hstrict := List.sortedLE_insertionSort.sortedLT_of_nodup hnodup
  simpa only [inByteOrder, bytes_le_iff] using hstrict.pairwise

/-- **Of two texts** the one with the lesser bytes comes first. -/
theorem pair_sublist_inByteOrder_iff {texts : List String} {first second : String}
    (hfirst : first ∈ texts) (hsecond : second ∈ texts) :
    [first, second].Sublist (inByteOrder texts) ↔ bytes first < bytes second := by
  have hpairwise := pairwise_inByteOrder texts
  rw [bytes_lt_iff]
  constructor
  · intro hsublist
    exact List.pairwise_iff_forall_sublist.mp hpairwise hsublist
  · intro hlt
    -- Both are there, and they stand in the order that the whole list has.
    have hsubperm : [first, second].Subperm (inByteOrder texts) := by
      apply List.Nodup.subperm
      · simpa using hlt.ne
      · intro text htext
        rw [mem_inByteOrder]
        rcases List.mem_pair.mp htext with rfl | rfl
        · exact hfirst
        · exact hsecond
    apply List.sublist_of_subperm_of_pairwise hsubperm ?_ hpairwise
    simpa using hlt

end Text

namespace Keyed

variable {α : Type}

theorem mem_keys_set {key other : String} {value : α} {entries : Keyed α} :
    other ∈ keys (set key value entries) ↔ other = key ∨ other ∈ keys entries := by
  induction entries with
  | nil => simp [set, keys]
  | cons entry rest ih =>
    simp only [keys] at ih
    simp only [set]
    split_ifs with hlt heq
    · simp [keys]
    · simp [keys, heq]
    · simp only [keys, List.map_cons, List.mem_cons, ih]
      tauto

/-- Setting a key keeps the keys in strict order. -/
theorem pairwise_keys_set (key : String) (value : α) {entries : Keyed α}
    (h : (keys entries).Pairwise (· < ·)) : (keys (set key value entries)).Pairwise (· < ·) := by
  induction entries with
  | nil => exact List.pairwise_singleton _ _
  | cons entry rest ih =>
    obtain ⟨hentry, hrest⟩ := List.pairwise_cons.mp h
    simp only [set]
    split_ifs with hlt heq
    · refine List.pairwise_cons.mpr ⟨fun other hother => ?_, h⟩
      rcases List.mem_cons.mp hother with rfl | hother
      · exact hlt
      · exact hlt.trans (hentry other hother)
    · -- The key is there, and its value changes only.
      subst heq
      exact h
    · -- The key comes somewhere behind the first one.
      refine List.pairwise_cons.mpr ⟨fun other hother => ?_, ih hrest⟩
      rcases mem_keys_set.mp hother with rfl | hother
      · exact lt_of_le_of_ne (not_lt.mp hlt) (Ne.symm heq)
      · exact hentry other hother

theorem lookup_set_self (key : String) (value : α) (entries : Keyed α) :
    (set key value entries).lookup key = some value := by
  induction entries with
  | nil => exact List.lookup_cons_self
  | cons entry rest ih =>
    simp only [set]
    split_ifs with hlt heq
    · exact List.lookup_cons_self
    · exact List.lookup_cons_self
    · rw [List.lookup_cons, beq_eq_false_iff_ne.mpr heq]
      exact ih

theorem lookup_set_of_ne {key other : String} (h : other ≠ key) (value : α) (entries : Keyed α) :
    (set key value entries).lookup other = entries.lookup other := by
  induction entries with
  | nil => rw [set, List.lookup_cons, beq_eq_false_iff_ne.mpr h]
  | cons entry rest ih =>
    simp only [set]
    split_ifs with hlt heq
    · rw [List.lookup_cons, beq_eq_false_iff_ne.mpr h]
    · rw [List.lookup_cons, List.lookup_cons, ← heq, beq_eq_false_iff_ne.mpr h]
    · rw [List.lookup_cons, List.lookup_cons, ih]

/-- **The value of a key** among pairs set one after the other is that of its last pair. -/
theorem lookup_ofList (pairs : List (String × α)) (key : String) :
    (ofList pairs).lookup key = pairs.reverse.lookup key := by
  induction pairs using List.reverseRecOn with
  | nil => rfl
  | append_singleton pairs pair ih =>
    rw [ofList, List.foldl_append, List.foldl_cons, List.foldl_nil, List.reverse_append,
      List.reverse_singleton, List.singleton_append, List.lookup_cons, ← ih]
    by_cases heq : key = pair.1
    · rw [heq, lookup_set_self, beq_self_eq_true]
    · rw [lookup_set_of_ne heq, beq_eq_false_iff_ne.mpr heq]
      rfl

/-- **Keys in strict order** are all there is to say about which keys there are. -/
theorem eq_inByteOrder {found texts : List String} (hsorted : found.Pairwise (· < ·))
    (hmem : ∀ text, text ∈ found ↔ text ∈ texts) : found = Text.inByteOrder texts := by
  refine List.SortedLT.eq_of_mem_iff hsorted.sortedLT
    (Text.pairwise_inByteOrder texts).sortedLT fun text => ?_
  rw [Text.mem_inByteOrder]
  exact hmem text

end Keyed

/-! ## Keys at their first places -/

namespace Written

variable {α β : Type}

/-- Pairs with each key once, at the first place it has and with the last value. -/
def settle : List (String × α) → List (String × α)
  | [] => []
  | (key, value) :: rest =>
    (key, ((settle rest).lookup key).getD value) :: (settle rest).filter (·.1 != key)

/-- No key is lost, and none is added. -/
theorem mem_keys_settle {key : String} {pairs : List (String × α)} :
    key ∈ (settle pairs).map (·.1) ↔ key ∈ pairs.map (·.1) := by
  induction pairs with
  | nil => rfl
  | cons pair rest ih =>
    obtain ⟨first, value⟩ := pair
    by_cases hkey : key = first
    · simp [settle, hkey]
    · -- The key stays when what comes first is left out of the rest.
      have hrest : key ∈ ((settle rest).filter (·.1 != first)).map (·.1) ↔
          key ∈ (settle rest).map (·.1) := by
        simp [hkey]
      rw [settle, List.map_cons, List.mem_cons, hrest, ih, List.map_cons, List.mem_cons]

theorem lookup_setPair_self (key : String) (value : α) (pairs : List (String × α)) :
    (setPair key value pairs).lookup key = some value := by
  induction pairs with
  | nil => simp [setPair]
  | cons entry rest ih =>
    simp only [setPair]
    split_ifs with heq
    · exact List.lookup_cons_self
    · rw [List.lookup_cons, beq_eq_false_iff_ne.mpr heq]
      exact ih

theorem lookup_setPair_of_ne {key other : String} (h : other ≠ key) (value : α)
    (pairs : List (String × α)) : (setPair key value pairs).lookup other = pairs.lookup other := by
  induction pairs with
  | nil => simp [setPair, List.lookup_cons, beq_eq_false_iff_ne.mpr h]
  | cons entry rest ih =>
    simp only [setPair]
    split_ifs with heq
    · rw [List.lookup_cons, List.lookup_cons, ← heq, beq_eq_false_iff_ne.mpr h]
    · rw [List.lookup_cons, List.lookup_cons, ih]

/-- Setting a key is not seen where the key is left out. -/
theorem filter_setPair_self (key : String) (value : α) (pairs : List (String × α)) :
    (setPair key value pairs).filter (·.1 != key) = pairs.filter (·.1 != key) := by
  induction pairs with
  | nil => simp [setPair]
  | cons entry rest ih =>
    simp only [setPair]
    split_ifs with heq
    · simp [heq]
    · rw [List.filter_cons, List.filter_cons, ih]

theorem filter_setPair_of_ne {key other : String} (h : key ≠ other) (value : α)
    (pairs : List (String × α)) :
    (setPair key value pairs).filter (·.1 != other) =
      setPair key value (pairs.filter (·.1 != other)) := by
  induction pairs with
  | nil => simp [setPair, h]
  | cons entry rest ih =>
    by_cases hkey : key = entry.1
    · simp [setPair, hkey, hkey ▸ h]
    · have hset : setPair key value (entry :: rest) = entry :: setPair key value rest :=
        if_neg hkey
      by_cases hother : entry.1 = other
      · simp [hset, hother, ih]
      · simp [setPair, hkey, hother, ih]

/-- One more pair behind the others is set in what they settle on. -/
theorem settle_append_singleton (pairs : List (String × α)) (key : String) (value : α) :
    settle (pairs ++ [(key, value)]) = setPair key value (settle pairs) := by
  induction pairs with
  | nil => rfl
  | cons entry rest ih =>
    obtain ⟨first, held⟩ := entry
    simp only [List.cons_append, settle, ih, setPair]
    by_cases hkey : key = first
    · subst hkey
      rw [lookup_setPair_self, filter_setPair_self, if_pos rfl, Option.getD_some]
    · rw [lookup_setPair_of_ne (Ne.symm hkey), filter_setPair_of_ne hkey, if_neg hkey]

/-- **Setting pairs** one after the other settles them. -/
theorem foldl_setPair (pairs : List (String × α)) :
    pairs.foldl (fun settled pair => setPair pair.1 pair.2 settled) [] = settle pairs := by
  -- The last pair is the one that is set last.
  induction pairs using List.reverseRecOn with
  | nil => rfl
  | append_singleton pairs pair ih =>
    rw [List.foldl_append, ih, settle_append_singleton]
    rfl

/-! ### Pairs whose values correspond -/

/-- Two pairs have one key, and their values correspond. -/
def Corresponds (R : α → β → Prop) (p : String × α) (q : String × β) : Prop :=
  p.1 = q.1 ∧ R p.2 q.2

variable {R : α → β → Prop}

theorem rel_lookup {ps : List (String × α)} {qs : List (String × β)}
    (h : List.Forall₂ (Corresponds R) ps qs) (key : String) :
    Option.Rel R (ps.lookup key) (qs.lookup key) := by
  induction h with
  | nil => exact .none
  | @cons p q ps qs hpair hrest ih =>
    obtain ⟨hkey, hvalue⟩ := hpair
    rw [List.lookup_cons, List.lookup_cons, hkey]
    cases key == q.1 with
    | true => exact .some hvalue
    | false => exact ih

/-- Setting a key to corresponding values keeps pairs with corresponding values. -/
theorem forall₂_setPair {ps : List (String × α)} {qs : List (String × β)}
    (h : List.Forall₂ (Corresponds R) ps qs) (key : String) {value : α} {other : β}
    (hvalue : R value other) :
    List.Forall₂ (Corresponds R) (setPair key value ps) (setPair key other qs) := by
  induction h with
  | nil => exact .cons ⟨rfl, hvalue⟩ .nil
  | @cons p q ps qs hpair hrest ih =>
    simp only [setPair, hpair.1]
    split_ifs with hkey
    · exact .cons ⟨rfl, hvalue⟩ hrest
    · exact .cons hpair ih

/-- Pairs with corresponding values settle on pairs with corresponding values. -/
theorem forall₂_settle {ps : List (String × α)} {qs : List (String × β)}
    (h : List.Forall₂ (Corresponds R) ps qs) :
    List.Forall₂ (Corresponds R) (settle ps) (settle qs) := by
  induction h with
  | nil => exact .nil
  | @cons p q ps qs hpair hrest ih =>
    obtain ⟨key, value⟩ := p
    obtain ⟨_, other⟩ := q
    obtain ⟨rfl, hvalue⟩ := hpair
    refine .cons ⟨rfl, ?_⟩ (List.rel_filter ?_ ih)
    · have hlookup := rel_lookup ih key
      revert hlookup
      cases (settle ps).lookup key <;> cases (settle qs).lookup key <;> rintro (hrel | _)
      · exact hvalue
      · exact hrel
    · rintro p q ⟨hkey, -⟩
      simp only [hkey]

end Written

end Stencil
