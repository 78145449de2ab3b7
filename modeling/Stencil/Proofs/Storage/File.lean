import Stencil.Proofs.Storage.Folder

/-!
# Texts in files

A text that is written to a file is what is read from it, until the same location is written
again: folders stay folders, so the path leads where it did.

## Main definitions

* `Storage.destination path`: the location that a path leads to if it leads anywhere
* `Storage.Holds path text`: the path leads to a file with the text

## Main results

* `Storage.destination_append_ne`: different names behind one text lead to different places
* `Storage.destination_join`: a name behind a folder leads into the folder
* `Storage.Holds.readText`: what is held is read
* `Storage.holds_of_writeFile`: what is written is held
* `Storage.Holds.of_gainsFolders`, `Storage.Holds.of_writeFile`: and it stays when folders are
  made and when files at other locations are written
-/

namespace Stencil

namespace Storage

variable {before after storage : Storage} {path text : String}

/-! ## Where paths lead -/

/-- The location that a path leads to if it leads anywhere. -/
def destination (storage : Storage) (path : String) : Location :=
  (Path.components path.toList).foldl descend (storage.origin path.toList)

theorem destination_congr (h : after.workingFolder = before.workingFolder) (path : String) :
    after.destination path = before.destination path := by
  rw [destination, destination, origin, origin, h]

@[simp] theorem destination_set (storage : Storage) (location : Location) (entry : Entry)
    (path : String) : (storage.set location entry).destination path = storage.destination path :=
  rfl

theorem eq_destination_of_locate {location : Location} (h : storage.locate path = .ok location) :
    location = storage.destination path := eq_foldl_of_locate h

theorem descend_of_exists_ne {location : Location} {piece : List Char} (h : ∃ c ∈ piece, c ≠ '.') :
    descend location piece = location ++ [String.ofList piece] := by
  obtain ⟨c, hc, hne⟩ := h
  have hdot : piece ≠ ['.'] := by
    rintro rfl
    exact hne (List.mem_singleton.mp hc)
  have hdots : piece ≠ ['.', '.'] := by
    rintro rfl
    simp [hne] at hc
  rw [descend, if_neg hdot, if_neg hdots]

/-- Names behind one text lead to places in one folder, if they hold no slash and not only dots. -/
theorem exists_destination_append (storage : Storage) (common : String) :
    ∃ (parent : Location) (last : List Char), ∀ name : String, '/' ∉ name.toList →
      (∃ c ∈ name.toList, c ≠ '.') →
      storage.destination (common ++ name) = parent ++ [String.ofList (last ++ name.toList)] := by
  -- All pieces but the last are those of the text, and the name completes the last one.
  obtain ⟨front, last, hpieces⟩ := Path.exists_pieces_append common.toList
  refine ⟨front.foldl descend (storage.origin common.toList), last, fun name hslash hletter => ?_⟩
  obtain ⟨c, hc, hne⟩ := hletter
  have hroot : Path.isAbsolute (common ++ name).toList = Path.isAbsolute common.toList := by
    rw [Path.isAbsolute, Path.isAbsolute, String.toList_append, List.head?_append]
    cases hhead : common.toList.head? with
    | some first => rfl
    | none =>
      have hfirst : name.toList.head? ≠ some '/' := fun h => hslash (List.mem_of_mem_head? h)
      simpa using hfirst
  rw [destination, Path.components, foldl_descend_filter, String.toList_append,
    hpieces name.toList hslash (List.ne_nil_of_mem (List.mem_append_right last hc)),
    List.foldl_append, List.foldl_cons, List.foldl_nil,
    descend_of_exists_ne ⟨c, List.mem_append_right last hc, hne⟩, origin, origin,
    ← String.toList_append, hroot]

/-- Different names behind one text lead to different places. -/
theorem destination_append_ne (storage : Storage) (common : String) {left right : String}
    (hleft : '/' ∉ left.toList ∧ ∃ c ∈ left.toList, c ≠ '.')
    (hright : '/' ∉ right.toList ∧ ∃ c ∈ right.toList, c ≠ '.') (hne : left ≠ right) :
    storage.destination (common ++ left) ≠ storage.destination (common ++ right) := by
  obtain ⟨parent, last, hplace⟩ := exists_destination_append storage common
  rw [hplace left hleft.1 hleft.2, hplace right hright.1 hright.2]
  intro heq
  have hnames := String.ofList_injective (List.singleton_inj.mp (List.append_cancel_left heq))
  exact hne (String.toList_inj.mp (List.append_cancel_left hnames))

/-- A name behind a folder leads into the folder. -/
theorem destination_join (storage : Storage) (folder : String) {name : String}
    (hslash : '/' ∉ name.toList) (hletter : ∃ c ∈ name.toList, c ≠ '.') :
    storage.destination (Path.join folder name) = storage.destination folder ++ [name] := by
  have hne : name ≠ "" := by
    rintro rfl
    simp at hletter
  rw [destination, destination, Path.components, Path.components, foldl_descend_filter,
    foldl_descend_filter, Path.pieces_join folder hslash hne, List.foldl_append, List.foldl_cons,
    List.foldl_nil, descend_of_exists_ne hletter, String.ofList_toList, origin, origin,
    Path.isAbsolute_join folder hslash]

/-- Folders are still folders. -/
structure KeepsFolders (before after : Storage) : Prop where
  workingFolder : after.workingFolder = before.workingFolder
  get?_eq : ∀ location, before.get? location = some .folder → after.get? location = some .folder

theorem GainsFolders.keepsFolders (h : GainsFolders path before after) :
    KeepsFolders before after := by
  refine ⟨h.workingFolder, fun location hfolder => ?_⟩
  rcases h.get? location with hkept | ⟨hnone, -, -⟩
  · rw [hkept, hfolder]
  · cases hnone.symm.trans hfolder

theorem KeepsFolders.set {location : Location} (hplain : storage.get? location ≠ some .folder)
    (content : ByteArray) : KeepsFolders storage (storage.set location (.file content)) := by
  have hne : location ≠ [] := by
    rintro rfl
    exact hplain rfl
  refine ⟨rfl, fun other hfolder => ?_⟩
  have hother : other ≠ location := fun h => hplain (h ▸ hfolder)
  rw [get?_set storage hne, if_neg hother, hfolder]

theorem get?_of_enter {location next : Location} {piece : List Char}
    (h : storage.enter location piece = .ok next) : storage.get? location = some .folder := by
  unfold enter at h
  split at h
  · cases h
  · cases h
  · assumption

namespace KeepsFolders

theorem enter (h : KeepsFolders before after) {location next : Location} {piece : List Char}
    (hok : before.enter location piece = .ok next) : after.enter location piece = .ok next := by
  have hfolder := get?_of_enter hok
  have hkept := h.get?_eq location hfolder
  simp only [Storage.enter, hfolder] at hok
  simp only [Storage.enter, hkept]
  exact hok

theorem follow (h : KeepsFolders before after) {location found : Location}
    {pieces : List (List Char)} (hok : before.follow location pieces = .ok found) :
    after.follow location pieces = .ok found := by
  induction pieces generalizing location with
  | nil => exact hok
  | cons piece pieces ih =>
    obtain ⟨next, hnext, hrest⟩ := exists_of_bind_eq_ok hok
    rw [Storage.follow, h.enter hnext]
    exact ih hrest

theorem locate (h : KeepsFolders before after) {location : Location}
    (hok : before.locate path = .ok location) : after.locate path = .ok location := by
  obtain ⟨⟨⟩, hcheck, hfollow⟩ := exists_of_bind_eq_ok hok
  rw [Storage.locate, hcheck, origin, h.workingFolder]
  exact h.follow hfollow

end KeepsFolders

/-! ## Files that hold a text -/

/-- The path leads to a file that holds the text. -/
structure Holds (storage : Storage) (path text : String) : Prop where
  locate_eq : storage.locate path = .ok (storage.destination path)
  endsInSlash_eq : endsInSlash path = false
  get?_eq : storage.get? (storage.destination path) = some (.file text.toUTF8)

theorem fromUTF8?_toUTF8 (text : String) : String.fromUTF8? text.toUTF8 = some text := by
  have hvalid : text.toUTF8.IsValidUTF8 := text.isValidUTF8
  rw [String.fromUTF8?, dif_pos hvalid]
  rfl

/-- What is held is read. -/
theorem Holds.readText (h : storage.Holds path text) : storage.readText path = .ok text := by
  have hfile : storage.readFile path = .ok text.toUTF8 := by
    rw [readFile, h.locate_eq]
    simp only [bind, Except.bind, h.get?_eq, h.endsInSlash_eq]
    rfl
  rw [Storage.readText, hfile]
  simp only [bind, Except.bind, fromUTF8?_toUTF8]

/-- A file can be written where its path leads, unless a folder is there. -/
theorem locate_of_target {location : Location} {content : Option ByteArray}
    (h : storage.target path = .ok (location, content)) :
    storage.locate path = .ok location ∧ endsInSlash path = false ∧
      storage.get? location = content.map .file := by
  obtain ⟨⟨⟩, hcheck, hfound⟩ := exists_of_bind_eq_ok h
  have hlocate : storage.locate path =
      storage.follow (storage.origin path.toList) (Path.pieces path.toList) := by
    rw [locate, hcheck]
    rfl
  rw [hlocate]
  simp only at hfound
  split at hfound
  · -- A path that ends in a slash is refused in the end, whatever is found on the way.
    obtain ⟨parent, -, hparent⟩ := exists_of_bind_eq_ok hfound
    obtain ⟨-, -, hrefused⟩ := exists_of_bind_eq_ok hparent
    cases hrefused
  · rename_i hslash
    obtain ⟨found, hfollow, hentry⟩ := exists_of_bind_eq_ok hfound
    rw [hfollow]
    split at hentry
    · cases hentry
    · rename_i held hget
      obtain ⟨rfl, rfl⟩ := Prod.mk.inj (Except.ok.inj hentry)
      exact ⟨rfl, Bool.eq_false_iff.mpr hslash, hget⟩
    · rename_i hget
      obtain ⟨rfl, rfl⟩ := Prod.mk.inj (Except.ok.inj hentry)
      exact ⟨rfl, Bool.eq_false_iff.mpr hslash, hget⟩

/-- No folder stands where a file can be written. -/
theorem ne_folder_of_target {location : Location} {content : Option ByteArray}
    (h : storage.target path = .ok (location, content)) :
    storage.get? location ≠ some .folder := by
  rw [(locate_of_target h).2.2]
  cases content <;> simp

/-- A file is written at the location that its path leads to, where no folder is. -/
theorem eq_set_of_writeFile (h : storage.writeFile path text = .ok after) :
    storage.locate path = .ok (storage.destination path) ∧ endsInSlash path = false ∧
      storage.get? (storage.destination path) ≠ some .folder ∧
      after = storage.set (storage.destination path) (.file text.toUTF8) := by
  obtain ⟨⟨location, content⟩, htarget, hwritten⟩ := exists_of_bind_eq_ok h
  obtain ⟨hlocate, hslash, -⟩ := locate_of_target htarget
  rw [← eq_destination_of_locate hlocate]
  exact ⟨hlocate, hslash, ne_folder_of_target htarget, (Except.ok.inj hwritten).symm⟩

theorem destination_ne_nil (h : storage.get? (storage.destination path) ≠ some .folder) :
    storage.destination path ≠ [] := by
  intro hnil
  rw [hnil] at h
  exact h rfl

/-- What is written is held. -/
theorem holds_of_writeFile (h : storage.writeFile path text = .ok after) :
    after.Holds path text := by
  obtain ⟨hlocate, hslash, hplain, rfl⟩ := eq_set_of_writeFile h
  refine ⟨(KeepsFolders.set hplain _).locate hlocate, hslash, ?_⟩
  rw [destination_set, get?_set storage (destination_ne_nil hplain), if_pos rfl]

theorem Holds.of_gainsFolders {folder : String} (h : before.Holds path text)
    (hgains : GainsFolders folder before after) : after.Holds path text := by
  have hsame := destination_congr hgains.workingFolder path
  refine ⟨?_, h.endsInSlash_eq, ?_⟩
  · rw [hsame]
    exact hgains.keepsFolders.locate h.locate_eq
  · rcases hgains.get? (before.destination path) with hkept | ⟨hnone, -, -⟩
    · rw [hsame, hkept, h.get?_eq]
    · cases hnone.symm.trans h.get?_eq

theorem Holds.of_writeFile {other otherText : String} (h : before.Holds path text)
    (hwrite : before.writeFile other otherText = .ok after)
    (hne : before.destination path ≠ before.destination other) : after.Holds path text := by
  obtain ⟨-, -, hplain, rfl⟩ := eq_set_of_writeFile hwrite
  refine ⟨?_, h.endsInSlash_eq, ?_⟩
  · rw [destination_set]
    exact (KeepsFolders.set hplain _).locate h.locate_eq
  · rw [destination_set, get?_set before (destination_ne_nil hplain), if_neg hne, h.get?_eq]

end Storage

end Stencil
