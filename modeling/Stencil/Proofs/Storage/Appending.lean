import Stencil.Proofs.Storage.File

/-!
# Texts behind what a file holds

A text that is appended to a file comes behind what the file holds, and makes the file if there is
none. Texts that are appended one after the other, with folders made in between, leave the file
with all of them in their order, and no other file is touched.

## Main definitions

* `Storage.contentOf entry`: what a file holds, nothing if there is none
* `Storage.Appends location folders before texts after`: texts have been put behind what stands at
  a location, and but for that only folders are new

## Main results

* `Storage.foldl_put`: texts put one after the other are all there
* `Storage.eq_set_of_appendFile`: what an appended text changes
* `Storage.Appends.get?_eq_file_iff`: other files are as they were
-/

namespace Stencil

namespace Storage

/-! ## Contents -/

/-- What a file holds; nothing where no file stands. -/
def contentOf : Option Entry → ByteArray
  | some (.file content) => content
  | _ => .empty

/-- A file with a text behind what was there. -/
def put (entry : Option Entry) (text : String) : Option Entry :=
  some (.file (contentOf entry ++ text.toUTF8))

@[simp] theorem contentOf_put (entry : Option Entry) (text : String) :
    contentOf (put entry text) = contentOf entry ++ text.toUTF8 := rfl

theorem toUTF8_append (s t : String) : (s ++ t).toUTF8 = s.toUTF8 ++ t.toUTF8 := rfl

/-- **Texts put one after the other** are all there, in their order. -/
theorem foldl_put (entry : Option Entry) {texts : List String} (hne : texts ≠ []) :
    texts.foldl put entry = some (.file (contentOf entry ++ (String.join texts).toUTF8)) := by
  induction texts generalizing entry with
  | nil => exact absurd rfl hne
  | cons text texts ih =>
    rw [List.foldl_cons, String.join_cons, toUTF8_append, ← ByteArray.append_assoc]
    cases texts with
    | nil =>
      rw [List.foldl_nil, String.join_nil]
      exact congrArg (some <| Entry.file ·) ByteArray.append_empty.symm
    | cons next rest => exact ih (put entry text) (List.cons_ne_nil next rest)

/-! ## Appended texts -/

variable {before middle after storage : Storage} {path text : String}

/-- A text is appended at the location that the path leads to, where no folder is. -/
theorem eq_set_of_appendFile (h : storage.appendFile path text = .ok after) :
    storage.get? (storage.destination path) ≠ some .folder ∧
      after = storage.set (storage.destination path)
        (.file (contentOf (storage.get? (storage.destination path)) ++ text.toUTF8)) := by
  obtain ⟨⟨location, content⟩, htarget, hwritten⟩ := exists_of_bind_eq_ok h
  obtain ⟨hlocate, -, hheld⟩ := locate_of_target htarget
  rw [← eq_destination_of_locate hlocate]
  refine ⟨ne_folder_of_target htarget, (Except.ok.inj hwritten).symm.trans ?_⟩
  -- What the file holds is what is found there, if anything is.
  rw [hheld]
  cases content <;> rfl

/-- Texts have been put one after the other behind what stands at a location, and but for that only
folders on the way along some paths are new. -/
structure Appends (location : Location) (folders : List String) (before : Storage)
    (texts : List String) (after : Storage) : Prop where
  workingFolder : after.workingFolder = before.workingFolder
  get?_eq : after.get? location = texts.foldl put (before.get? location)
  get?_ne : ∀ other, other ≠ location → after.get? other = before.get? other ∨
    before.get? other = none ∧ after.get? other = some .folder ∧
      ∃ folder ∈ folders, before.OnWay folder other

namespace Appends

variable {location : Location} {folders : List String} {texts more : List String}

theorem refl (location : Location) (folders : List String) (storage : Storage) :
    Appends location folders storage [] storage := ⟨rfl, rfl, fun _ _ => Or.inl rfl⟩

/-- Texts that are put behind others. -/
theorem trans (hfirst : Appends location folders before texts middle)
    (hsecond : Appends location folders middle more after) :
    Appends location folders before (texts ++ more) after := by
  refine ⟨hsecond.workingFolder.trans hfirst.workingFolder, ?_, fun other hother => ?_⟩
  · rw [hsecond.get?_eq, hfirst.get?_eq, List.foldl_append]
  · rcases hsecond.get?_ne other hother with hkept | ⟨hnone, hnew, folder, hfolder, hway⟩
    · rw [hkept]
      exact hfirst.get?_ne other hother
    · -- A folder that the second makes was missing before the first, which makes none there.
      rcases hfirst.get?_ne other hother with hkept | ⟨-, hthere, -⟩
      · refine Or.inr ⟨hkept ▸ hnone, hnew, folder, hfolder, ?_⟩
        exact hway.of_workingFolder hfirst.workingFolder
      · cases hnone.symm.trans hthere

/-- More folders may be new. -/
theorem mono {others : List String} (h : Appends location folders before texts after)
    (hfolders : folders ⊆ others) : Appends location others before texts after := by
  refine ⟨h.workingFolder, h.get?_eq, fun other hother => ?_⟩
  refine (h.get?_ne other hother).imp_right ?_
  rintro ⟨hnone, hnew, folder, hfolder, hway⟩
  exact ⟨hnone, hnew, folder, hfolders hfolder, hway⟩

/-- **Other files** are as they were. -/
theorem get?_eq_file_iff (h : Appends location folders before texts after) {other : Location}
    (hother : other ≠ location) (content : ByteArray) :
    after.get? other = some (.file content) ↔ before.get? other = some (.file content) := by
  rcases h.get?_ne other hother with hkept | ⟨hnone, hnew, -⟩
  · rw [hkept]
  · rw [hnone, hnew]
    simp

/-- A folder is made, with the folders above it, and a text is appended to a file. -/
theorem of_appendFile {folder : String} (hgains : GainsFolders folder before middle)
    (happend : middle.appendFile path text = .ok after) :
    Appends (before.destination path) [folder] before [text] after := by
  obtain ⟨hplain, rfl⟩ := eq_set_of_appendFile happend
  have hsame := destination_congr hgains.workingFolder path
  have hne := destination_ne_nil hplain
  rw [hsame] at hplain hne ⊢
  refine ⟨hgains.workingFolder, ?_, fun other hother => ?_⟩
  · -- No folder has been made where the file stands.
    have hkept : middle.get? (before.destination path) = before.get? (before.destination path) := by
      rcases hgains.get? (before.destination path) with hkept | ⟨-, hnew, -⟩
      · exact hkept
      · exact absurd hnew hplain
    rw [get?_set middle hne, if_pos rfl, hkept]
    rfl
  · rw [get?_set middle hne, if_neg hother]
    refine (hgains.get? other).imp_right ?_
    rintro ⟨hnone, hnew, hway⟩
    exact ⟨hnone, hnew, folder, List.mem_singleton_self folder, hway⟩

end Appends

end Storage

end Stencil
