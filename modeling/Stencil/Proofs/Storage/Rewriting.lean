import Mathlib.Data.List.Induction
import Stencil.Proofs.Storage.File

/-!
# Writing again

Entries that are set a second time, all of them in the same order, leave the storage as it is, also
where several of them are set at one location. A folder that has been made is not made again, and a
file that has been written can be written again.

## Main definitions

* `Storage.setAll storage writes`: entries set one after the other
* `Storage.HasFolder path`: there is nothing to make at a path

## Main results

* `Storage.setAll_setAll`: entries that are set again
* `Storage.makeFolders_of_hasFolder`: folders that are made again
* `Storage.holds_of_readText`, `Storage.Holds.writeFile`: files that are read and written again
-/

namespace Stencil

namespace Storage

/-! ## Entries -/

section Entries

variable {location other : Location} {entry held : Entry} {entries : List (Location × Entry)}

theorem mem_setEntry : other ∈ (setEntry location entry entries).map (·.1) ↔
    other = location ∨ other ∈ entries.map (·.1) := by
  induction entries with
  | nil => simp [setEntry]
  | cons first entries ih =>
    rw [setEntry]
    split
    · rename_i hfirst
      simp [hfirst]
    · simp only [List.map_cons, List.mem_cons, ih]
      tauto

/-- The last of two entries at one location counts. -/
theorem setEntry_setEntry_self :
    setEntry location entry (setEntry location held entries) = setEntry location entry entries := by
  induction entries with
  | nil => simp [setEntry]
  | cons first entries ih =>
    by_cases hfirst : first.1 = location
    · simp [setEntry, hfirst]
    · simp [setEntry, hfirst, ih]

/-- Entries at two locations are set in any order, if one of them is there already. -/
theorem setEntry_comm (hmem : other ∈ entries.map (·.1)) (hne : other ≠ location) :
    setEntry other held (setEntry location entry entries) =
      setEntry location entry (setEntry other held entries) := by
  induction entries with
  | nil => cases hmem
  | cons first entries ih =>
    by_cases hlocation : first.1 = location
    · have hother : first.1 ≠ other := fun h => hne (h.symm.trans hlocation)
      simp [setEntry, hlocation, hne.symm]
    · by_cases hother : first.1 = other
      · simp [setEntry, hother, hne]
      · have hrest : other ∈ entries.map (·.1) :=
          (List.mem_cons.mp hmem).resolve_left (Ne.symm hother)
        simp [setEntry, hlocation, hother, ih hrest]

end Entries

/-! ## Entries set one after the other -/

/-- The storage with entries set one after the other. -/
def setAll (storage : Storage) (writes : List (Location × Entry)) : Storage :=
  writes.foldl (fun storage write => storage.set write.1 write.2) storage

theorem setAll_append (storage : Storage) (front back : List (Location × Entry)) :
    storage.setAll (front ++ back) = (storage.setAll front).setAll back :=
  List.foldl_append

theorem destination_setAll (storage : Storage) (writes : List (Location × Entry))
    (path : String) : (storage.setAll writes).destination path = storage.destination path := by
  induction writes generalizing storage with
  | nil => rfl
  | cons write writes ih =>
    exact (ih (storage.set write.1 write.2)).trans (destination_set storage _ _ path)

/-- What is set at the end need not be set at the beginning. -/
theorem set_setAll_set {writes : List (Location × Entry)} {storage : Storage}
    (hmem : ∀ write ∈ writes, write.1 ∈ storage.entries.map (·.1)) (location : Location)
    (entry : Entry) : ((storage.set location entry).setAll writes).set location entry =
      (storage.setAll writes).set location entry := by
  -- The entry goes behind one of the writes after the other, up to one that replaces it.
  induction writes generalizing storage with
  | nil => simp only [setAll, List.foldl_nil, set, setEntry_setEntry_self]
  | cons write writes ih =>
    obtain ⟨hwrite, hwrites⟩ := List.forall_mem_cons.mp hmem
    have hrest : ∀ other ∈ writes,
        other.1 ∈ (storage.set write.1 write.2).entries.map (·.1) := fun other hother =>
      mem_setEntry.mpr (Or.inr (hwrites other hother))
    have hstep : ((storage.set location entry).setAll (write :: writes)) =
        ((storage.set location entry).set write.1 write.2).setAll writes := rfl
    rw [hstep]
    by_cases hlocation : write.1 = location
    · -- The entry is replaced at once.
      have hset : (storage.set location entry).set write.1 write.2 =
          storage.set write.1 write.2 := by
        simp only [set, hlocation, setEntry_setEntry_self]
      rw [hset]
      rfl
    · have hset : (storage.set location entry).set write.1 write.2 =
          (storage.set write.1 write.2).set location entry := by
        simp only [set, setEntry_comm hwrite hlocation]
      rw [hset]
      exact ih hrest

theorem mem_setAll (storage : Storage) (writes : List (Location × Entry)) :
    ∀ write ∈ writes, write.1 ∈ (storage.setAll writes).entries.map (·.1) := by
  induction writes using List.reverseRecOn with
  | nil => exact nofun
  | append_singleton writes last ih =>
    intro write hwrite
    rw [setAll_append]
    refine mem_setEntry.mpr ?_
    rcases List.mem_append.mp hwrite with hwrite | hwrite
    · exact Or.inr (ih write hwrite)
    · exact Or.inl (congrArg (·.1) (List.mem_singleton.mp hwrite))

/-- **Entries that are set again**, all of them in the same order, change nothing. -/
theorem setAll_setAll (storage : Storage) (writes : List (Location × Entry)) :
    (storage.setAll writes).setAll writes = storage.setAll writes := by
  -- Induction on the writes, of which the last one is set in the end both times.
  induction writes using List.reverseRecOn with
  | nil => rfl
  | append_singleton writes last ih =>
    calc (storage.setAll (writes ++ [last])).setAll (writes ++ [last])
        = (((storage.setAll writes).set last.1 last.2).setAll writes).set last.1 last.2 := by
          rw [setAll_append, setAll_append]
          rfl
      _ = ((storage.setAll writes).setAll writes).set last.1 last.2 :=
          set_setAll_set (mem_setAll storage writes) last.1 last.2
      _ = storage.setAll (writes ++ [last]) := by
          rw [ih, setAll_append]
          rfl

/-! ## Folders that are there -/

variable {before after storage : Storage} {path text : String}

/-- There is nothing to make at a path: it is empty or leads to a folder. -/
def HasFolder (storage : Storage) (path : String) : Prop :=
  path.isEmpty = true ∨ storage.isFolder path = true

theorem isFolder_iff : storage.isFolder path = true ↔
    ∃ location, storage.locate path = .ok location ∧ storage.get? location = some .folder := by
  unfold isFolder
  split
  · rename_i fault hlocate
    simp [hlocate]
  · rename_i location hlocate
    split
    · rename_i hget
      simp [hlocate, hget]
    · rename_i hget
      simpa [hlocate] using hget

theorem KeepsFolders.hasFolder (h : KeepsFolders before after) (hfolder : before.HasFolder path) :
    after.HasFolder path := by
  refine hfolder.imp_right fun hfolder => ?_
  obtain ⟨location, hlocate, hget⟩ := isFolder_iff.mp hfolder
  exact isFolder_iff.mpr ⟨location, h.locate hlocate, h.get?_eq location hget⟩

theorem isFolder_of_ensureFolder (h : before.ensureFolder path = .ok after) :
    after.isFolder path = true := by
  unfold ensureFolder at h
  split at h
  · rename_i made hmade
    obtain rfl := Except.ok.inj h
    have hgains := gainsFolders_makeFolder hmade
    obtain ⟨location, hlocate, hentry⟩ := exists_of_bind_eq_ok hmade
    split at hentry
    · cases hentry
    · rename_i hnone
      refine isFolder_iff.mpr ⟨location, hgains.keepsFolders.locate hlocate, ?_⟩
      have hne : location ≠ [] := by
        rintro rfl
        cases hnone
      rw [← Except.ok.inj hentry, get?_set before hne, if_pos rfl]
  · split at h
    · rename_i hfolder
      rwa [← Except.ok.inj h]
    · cases h

theorem isFolder_of_ensureAll {paths : List String} (storage : Storage)
    (h : storage.ensureAll (paths ++ [path]) = (after, .ok ())) : after.isFolder path = true := by
  induction paths generalizing storage with
  | nil =>
    rw [List.nil_append, ensureAll] at h
    split at h
    · rename_i made hmade
      obtain ⟨rfl, -⟩ := Prod.mk.inj h
      exact isFolder_of_ensureFolder hmade
    · cases h
  | cons first paths ih =>
    rw [List.cons_append, ensureAll] at h
    split at h
    · exact ih _ h
    · cases h

/-- A folder is there once it has been made. -/
theorem hasFolder_of_makeFolders (h : before.makeFolders path = (after, .ok ())) :
    after.HasFolder path := by
  unfold makeFolders at h
  split at h
  · rename_i hempty
    exact Or.inl hempty
  · right
    split at h
    · rename_i made hmade
      obtain ⟨rfl, -⟩ := Prod.mk.inj h
      exact isFolder_of_ensureFolder hmade
    · exact isFolder_of_ensureAll before h
    · cases h

/-- A folder that is there is not made. -/
theorem makeFolders_of_hasFolder (h : storage.HasFolder path) :
    storage.makeFolders path = (storage, .ok ()) := by
  unfold makeFolders
  split
  · rfl
  · rename_i hempty
    have hfolder := h.resolve_left hempty
    obtain ⟨location, hlocate, hget⟩ := isFolder_iff.mp hfolder
    have hmake : storage.makeFolder path = .error .exists := by
      rw [makeFolder, hlocate]
      simp only [bind, Except.bind, hget]
    -- To make a folder that is there fails, and this failure is passed over.
    have hensure : storage.ensureFolder path = .ok storage := by
      rw [ensureFolder, hmake]
      simp only [hfolder, if_true]
    rw [hensure]

/-! ## Files that are there -/

theorem eq_toUTF8_of_fromUTF8? {content : ByteArray} (h : String.fromUTF8? content = some text) :
    content = text.toUTF8 := by
  unfold String.fromUTF8? at h
  split at h
  · rw [← Option.some.inj h]
    rfl
  · cases h

/-- What is read is held. -/
theorem holds_of_readText (h : storage.readText path = .ok text) : storage.Holds path text := by
  obtain ⟨content, hfile, htext⟩ := exists_of_bind_eq_ok h
  obtain ⟨location, hlocate, hentry⟩ := exists_of_bind_eq_ok hfile
  obtain rfl := eq_destination_of_locate hlocate
  split at hentry
  · cases hentry
  · cases hentry
  · rename_i held hget
    split at hentry
    · cases hentry
    · rename_i hslash
      obtain rfl := Except.ok.inj hentry
      split at htext
      · rename_i found hfound
        obtain rfl := Except.ok.inj htext
        exact ⟨hlocate, Bool.eq_false_iff.mpr hslash, by rw [hget, eq_toUTF8_of_fromUTF8? hfound]⟩
      · cases htext

/-- A file that is there can be written. -/
theorem Holds.writeFile (h : storage.Holds path text) (other : String) :
    storage.writeFile path other =
      .ok (storage.set (storage.destination path) (.file other.toUTF8)) := by
  obtain ⟨⟨⟩, hcheck, hfollow⟩ := exists_of_bind_eq_ok h.locate_eq
  have htarget : storage.target path = .ok (storage.destination path, some text.toUTF8) := by
    simp only [target, hcheck, bind, Except.bind, h.endsInSlash_eq, hfollow, h.get?_eq]
    rfl
  rw [Storage.writeFile, htarget]
  rfl

/-- A file stays a file whatever is written. -/
theorem Holds.exists_of_writeFile {other otherText : String} (h : before.Holds path text)
    (hwrite : before.writeFile other otherText = .ok after) : ∃ text, after.Holds path text := by
  by_cases hsame : before.destination path = before.destination other
  · obtain ⟨-, -, hplain, rfl⟩ := eq_set_of_writeFile hwrite
    refine ⟨otherText, ?_, h.endsInSlash_eq, ?_⟩
    · exact (KeepsFolders.set hplain _).locate h.locate_eq
    · rw [destination_set, get?_set before (destination_ne_nil hplain), if_pos hsame]
  · exact ⟨text, h.of_writeFile hwrite hsame⟩

end Storage

end Stencil
