/-!
# Association lists

Pairs of keys and values in one of two orders: that of the keys, by code points, or the one
in which the keys were first written.  Setting a key keeps the order and replaces what the
key had before.
-/

namespace Stencil

section Lookup

variable {κ α : Type} [BEq κ] [LawfulBEq κ] {pairs : List (κ × α)}

/-- A pair whose key no other pair has is found by its key. -/
theorem lookup_eq_some_of_mem {pair : κ × α} (hkeys : (pairs.map (·.1)).Nodup)
    (hmem : pair ∈ pairs) : pairs.lookup pair.1 = some pair.2 := by
  induction pairs with
  | nil => exact absurd hmem List.not_mem_nil
  | cons first rest ih =>
    obtain ⟨hfirst, hrest⟩ := List.nodup_cons.mp hkeys
    rcases List.mem_cons.mp hmem with rfl | hmem
    · exact List.lookup_cons_self
    · have hne : (pair.1 == first.1) = false := by
        rw [beq_eq_false_iff_ne]
        intro heq
        exact hfirst (List.mem_map.mpr ⟨pair, hmem, heq⟩)
      rw [List.lookup_cons, hne]
      exact ih hrest hmem

theorem mem_of_lookup_eq_some {key : κ} {value : α} (h : pairs.lookup key = some value) :
    (key, value) ∈ pairs := by
  obtain ⟨before, after, rfl, -⟩ := List.lookup_eq_some_iff.mp h
  simp

end Lookup

/-- A list of pairs, to be kept in the strict order of the keys. -/
abbrev Keyed (α : Type) := List (String × α)

namespace Keyed

variable {α : Type}

/-- The list with the key set to the value. -/
def set (key : String) (value : α) : Keyed α → Keyed α
  | [] => [(key, value)]
  | entry :: rest =>
    if key < entry.1 then (key, value) :: entry :: rest
    else if key = entry.1 then (key, value) :: rest
    else entry :: set key value rest

/-- The value of a key. -/
def get? (key : String) (entries : Keyed α) : Option α := entries.lookup key

/-- The keys in their order. -/
def keys (entries : Keyed α) : List String := entries.map (·.1)

/-- The pairs set one after the other, so that the last of equal keys wins. -/
def ofList (pairs : List (String × α)) : Keyed α :=
  pairs.foldl (fun entries pair => entries.set pair.1 pair.2) []

end Keyed

/-- Pairs in the order in which their keys were first written, each key once. -/
structure Written (α : Type) where
  entries : List (String × α)
  nodup_keys : (entries.map (·.1)).Nodup

namespace Written

variable {α β : Type}

/-- No pairs. -/
def empty : Written α := ⟨[], .nil⟩

instance : EmptyCollection (Written α) := ⟨empty⟩

/-- The keys in their order. -/
def keys (written : Written α) : List String := written.entries.map (·.1)

/-- What a function makes of the pairs, in their order. -/
def map (written : Written α) (f : String × α → β) : List β := written.entries.map f

/-- The value of a key. -/
def get? (key : String) (written : Written α) : Option α := written.entries.lookup key

/-- Pairs with the key set to the value: a new key comes last, a known one keeps its
place. -/
def setPair (key : String) (value : α) : List (String × α) → List (String × α)
  | [] => [(key, value)]
  | entry :: rest =>
    if key = entry.1 then (key, value) :: rest else entry :: setPair key value rest

theorem mem_keys_setPair {key other : String} {value : α} {pairs : List (String × α)}
    (h : other ∈ (setPair key value pairs).map (·.1)) :
    other = key ∨ other ∈ pairs.map (·.1) := by
  induction pairs with
  | nil => simpa [setPair] using h
  | cons entry rest ih =>
    simp only [setPair] at h
    split at h
    · rename_i hkey
      simpa [hkey] using h
    · rcases List.mem_cons.mp h with rfl | h
      · simp
      · rcases ih h with rfl | h
        · exact Or.inl rfl
        · exact Or.inr (List.mem_cons_of_mem _ h)

theorem nodup_keys_setPair (key : String) (value : α) {pairs : List (String × α)}
    (h : (pairs.map (·.1)).Nodup) : ((setPair key value pairs).map (·.1)).Nodup := by
  induction pairs with
  | nil => simp [setPair]
  | cons entry rest ih =>
    obtain ⟨hentry, hrest⟩ := List.nodup_cons.mp h
    simp only [setPair]
    split
    · rename_i hkey
      simpa [hkey] using h
    · rename_i hkey
      refine List.nodup_cons.mpr ⟨fun hmem => ?_, ih hrest⟩
      rcases mem_keys_setPair hmem with heq | hmem
      · exact hkey heq.symm
      · exact hentry hmem

/-- The pairs with the key set to the value. -/
def set (key : String) (value : α) (written : Written α) : Written α :=
  ⟨setPair key value written.entries, nodup_keys_setPair key value written.nodup_keys⟩

end Written

end Stencil
