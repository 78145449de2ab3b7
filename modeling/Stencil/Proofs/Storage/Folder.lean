import Stencil.Proofs.Steps
import Stencil.Proofs.Storage.Path
import Stencil.Storage.Folder

/-!
# What changes in a storage

A file that is written replaces what stands at its location and nothing else. A folder that is
made with all folders above it adds folders on the way along its path, also when it cannot be
made in the end.

## Main definitions

* `Storage.OnWay path location`: some first components of the path lead to the location
* `Storage.GainsFolders path before after`: only folders on the way along the path are new

## Main results

* `Storage.get?_set`: what stands at a location after another one has been set
* `Storage.gainsFolders_makeFolders`: what the making of folders changes
-/

namespace Stencil

namespace Storage

/-! ## Entries -/

theorem lookup_cons_eq (name other : Location) (held : Entry)
    (entries : List (Location × Entry)) :
    ((name, held) :: entries).lookup other =
      if other = name then some held else entries.lookup other := by
  by_cases h : other = name
  · subst h
    simp
  · have hbeq : (other == name) = false := beq_false_of_ne h
    rw [List.lookup_cons, hbeq, if_neg h]

theorem lookup_setEntry (location other : Location) (entry : Entry)
    (entries : List (Location × Entry)) :
    (setEntry location entry entries).lookup other =
      if other = location then some entry else entries.lookup other := by
  induction entries with
  | nil => exact lookup_cons_eq location other entry []
  | cons first entries ih =>
    obtain ⟨name, held⟩ := first
    rw [lookup_cons_eq, setEntry]
    split
    · rename_i hname
      obtain rfl : name = location := hname
      rw [lookup_cons_eq]
      split <;> rfl
    · rename_i hname
      rw [lookup_cons_eq, ih]
      by_cases hother : other = location
      · rw [if_pos hother, if_pos hother, if_neg fun h => hname (h.symm.trans hother)]
      · rw [if_neg hother, if_neg hother]

/-- What stands at a location after an entry has been put at one below the root. -/
theorem get?_set (storage : Storage) {location : Location} (hne : location ≠ [])
    (entry : Entry) (other : Location) :
    (storage.set location entry).get? other =
      if other = location then some entry else storage.get? other := by
  cases other with
  | nil => simp [get?, hne.symm]
  | cons name names => simp [get?, set, lookup_setEntry]

/-! ## Following paths -/

/-- The location that a piece of a path leads to, whatever stands there. -/
def descend (location : Location) (piece : List Char) : Location :=
  if piece = ['.'] then location
  else if piece = ['.', '.'] then location.dropLast
  else location ++ [String.ofList piece]

theorem eq_descend_of_enter {storage : Storage} {location next : Location} {piece : List Char}
    (h : storage.enter location piece = .ok next) : next = descend location piece := by
  unfold enter at h
  split at h
  · cases h
  · cases h
  · -- Only a folder is entered, and a piece that is too long is not.
    by_cases hdot : piece = ['.']
    · rw [if_pos hdot] at h
      rw [descend, if_pos hdot, Except.ok.inj h]
    · by_cases hdots : piece = ['.', '.']
      · rw [if_neg hdot, if_pos hdots] at h
        rw [descend, if_neg hdot, if_pos hdots, Except.ok.inj h]
      · rw [if_neg hdot, if_neg hdots] at h
        rw [descend, if_neg hdot, if_neg hdots]
        split at h
        · cases h
        · exact (Except.ok.inj h).symm

theorem eq_foldl_of_follow {storage : Storage} {location found : Location}
    {pieces : List (List Char)} (h : storage.follow location pieces = .ok found) :
    found = pieces.foldl descend location := by
  induction pieces generalizing location with
  | nil => exact (Except.ok.inj h).symm
  | cons piece pieces ih =>
    obtain ⟨next, hnext, hrest⟩ := exists_of_bind_eq_ok h
    rw [List.foldl_cons, ← eq_descend_of_enter hnext]
    exact ih hrest

/-- Dots that stay where they are lead nowhere else. -/
theorem foldl_descend_filter (location : Location) (pieces : List (List Char)) :
    (pieces.filter (· != ['.'])).foldl descend location = pieces.foldl descend location := by
  induction pieces generalizing location with
  | nil => rfl
  | cons piece pieces ih =>
    by_cases hdot : piece = ['.']
    · subst hdot
      exact ih location
    · have hkept : (piece :: pieces).filter (· != ['.']) = piece :: pieces.filter (· != ['.']) :=
        List.filter_cons_of_pos (bne_iff_ne.mpr hdot)
      rw [hkept, List.foldl_cons, List.foldl_cons, ih]

/-- The location that a path leads to is a matter of its components. -/
theorem eq_foldl_of_locate {storage : Storage} {path : String} {location : Location}
    (h : storage.locate path = .ok location) :
    location = (Path.components path.toList).foldl descend (storage.origin path.toList) := by
  obtain ⟨-, -, hfollow⟩ := exists_of_bind_eq_ok h
  rw [Path.components, foldl_descend_filter]
  exact eq_foldl_of_follow hfollow

/-! ## New folders -/

/-- A location on the way along a path: some first components of the path lead to it. -/
def OnWay (storage : Storage) (path : String) (location : Location) : Prop :=
  ∃ count, location = ((Path.components path.toList).take count).foldl descend
    (storage.origin path.toList)

theorem onWay_of_locate {storage : Storage} {path : String} {location : Location}
    (h : storage.locate path = .ok location) : storage.OnWay path location :=
  ⟨(Path.components path.toList).length, by rw [List.take_length]; exact eq_foldl_of_locate h⟩

/-- What is on the way along one of the paths above a path is on the way along the path. -/
theorem OnWay.of_take {storage : Storage} {path shorter : String} {location : Location}
    {count : Nat} (hcomponents : Path.components shorter.toList =
      (Path.components path.toList).take count)
    (hroot : Path.isAbsolute shorter.toList = Path.isAbsolute path.toList)
    (h : storage.OnWay shorter location) : storage.OnWay path location := by
  obtain ⟨fewer, rfl⟩ := h
  refine ⟨min fewer count, ?_⟩
  rw [hcomponents, List.take_take, origin, origin, hroot]

theorem OnWay.of_workingFolder {before after : Storage} {path : String} {location : Location}
    (hfolder : after.workingFolder = before.workingFolder) (h : after.OnWay path location) :
    before.OnWay path location := by
  obtain ⟨count, rfl⟩ := h
  exact ⟨count, by rw [origin, origin, hfolder]⟩

/-- Only folders on the way along a path are new. -/
structure GainsFolders (path : String) (before after : Storage) : Prop where
  workingFolder : after.workingFolder = before.workingFolder
  get? : ∀ location, after.get? location = before.get? location ∨
    before.get? location = none ∧ after.get? location = some .folder ∧ before.OnWay path location

namespace GainsFolders

variable {path : String} {before middle after : Storage}

theorem refl (path : String) (storage : Storage) : GainsFolders path storage storage :=
  ⟨rfl, fun _ => Or.inl rfl⟩

theorem trans (hfirst : GainsFolders path before middle)
    (hsecond : GainsFolders path middle after) : GainsFolders path before after := by
  refine ⟨hsecond.workingFolder.trans hfirst.workingFolder, fun location => ?_⟩
  rcases hsecond.get? location with hkept | ⟨hnone, hnew, hway⟩
  · rw [hkept]
    exact hfirst.get? location
  · rcases hfirst.get? location with hkept | ⟨-, hfolder, -⟩
    · exact Or.inr ⟨hkept ▸ hnone, hnew, hway.of_workingFolder hfirst.workingFolder⟩
    · cases hnone.symm.trans hfolder

theorem of_take {shorter : String} {count : Nat}
    (hcomponents : Path.components shorter.toList = (Path.components path.toList).take count)
    (hroot : Path.isAbsolute shorter.toList = Path.isAbsolute path.toList)
    (h : GainsFolders shorter before after) : GainsFolders path before after := by
  refine ⟨h.workingFolder, fun location => ?_⟩
  rcases h.get? location with hkept | ⟨hnone, hnew, hway⟩
  · exact Or.inl hkept
  · exact Or.inr ⟨hnone, hnew, hway.of_take hcomponents hroot⟩

end GainsFolders

theorem gainsFolders_set {storage : Storage} {path : String} {location : Location}
    (hlocate : storage.locate path = .ok location) (hnone : storage.get? location = none) :
    GainsFolders path storage (storage.set location .folder) := by
  have hne : location ≠ [] := by
    rintro rfl
    cases hnone
  refine ⟨rfl, fun other => ?_⟩
  rw [get?_set storage hne]
  by_cases hother : other = location
  · subst hother
    exact Or.inr ⟨hnone, if_pos rfl, onWay_of_locate hlocate⟩
  · exact Or.inl (if_neg hother)

theorem gainsFolders_makeFolder {storage made : Storage} {path : String}
    (h : storage.makeFolder path = .ok made) : GainsFolders path storage made := by
  obtain ⟨location, hlocate, hmade⟩ := exists_of_bind_eq_ok h
  cases hget : storage.get? location with
  | some entry =>
    simp only [hget] at hmade
    cases hmade
  | none =>
    simp only [hget] at hmade
    obtain rfl := Except.ok.inj hmade
    exact gainsFolders_set hlocate hget

theorem gainsFolders_ensureFolder {storage made : Storage} {path : String}
    (h : storage.ensureFolder path = .ok made) : GainsFolders path storage made := by
  unfold ensureFolder at h
  split at h
  · rename_i hmade
    obtain rfl := Except.ok.inj h
    exact gainsFolders_makeFolder hmade
  · -- What cannot be made may be there already.
    split at h
    · obtain rfl := Except.ok.inj h
      exact .refl path _
    · cases h

theorem gainsFolders_ensureAll {path : String} (paths : List String)
    (hpaths : ∀ shorter ∈ paths, ∀ before after, GainsFolders shorter before after →
      GainsFolders path before after) (storage : Storage) :
    GainsFolders path storage (storage.ensureAll paths).1 := by
  induction paths generalizing storage with
  | nil => exact .refl path storage
  | cons first paths ih =>
    obtain ⟨hfirst, hrest⟩ := List.forall_mem_cons.mp hpaths
    rw [ensureAll]
    split
    · rename_i made hmade
      exact (hfirst _ _ (gainsFolders_ensureFolder hmade)).trans (ih hrest made)
    · exact .refl path storage

theorem mem_tail_range {n count : Nat} (h : count ∈ (List.range n).tail) :
    0 < count ∧ count < n := by
  cases n with
  | zero => simp at h
  | succ n =>
    rw [List.range_succ_eq_map, List.tail_cons] at h
    obtain ⟨fewer, hfewer, rfl⟩ := List.mem_map.mp h
    exact ⟨Nat.succ_pos fewer, Nat.succ_lt_succ (List.mem_range.mp hfewer)⟩

/-- The folders above a path are those of its first components. -/
theorem exists_take_of_mem_above {path shorter : String} (h : shorter ∈ above path) :
    ∃ count, Path.components shorter.toList = (Path.components path.toList).take count ∧
      Path.isAbsolute shorter.toList = Path.isAbsolute path.toList := by
  obtain ⟨count, hcount, rfl⟩ := List.mem_map.mp h
  refine ⟨count, ?_⟩
  have hnames : ∀ name ∈ (Path.components path.toList).take count,
      name ∈ Path.components path.toList := fun _ => List.mem_of_mem_take
  have hne : (Path.components path.toList).take count ≠ [] := by
    obtain ⟨hpos, hlt⟩ := mem_tail_range hcount
    refine List.ne_nil_of_length_pos ?_
    rw [List.length_take]
    omega
  obtain ⟨hrelative, habsolute⟩ := Path.components_intercalate hnames
  have htext : (String.intercalate "/" (((Path.components path.toList).take count).map
      String.ofList)).toList = ['/'].intercalate ((Path.components path.toList).take count) := by
    rw [String.toList_intercalate, List.map_map]
    simp
  cases hroot : Path.isAbsolute path.toList with
  | true =>
    rw [if_pos rfl, String.toList_append, htext]
    exact ⟨habsolute, rfl⟩
  -- A relative path starts with its first component, which has no slash.
  | false =>
    rw [if_neg Bool.false_ne_true, String.empty_append, htext]
    exact ⟨hrelative, Path.isAbsolute_intercalate hne hnames⟩

/-- **New folders**: whatever comes of it, to make a folder with all folders above it adds
folders on the way along its path and changes nothing else. -/
theorem gainsFolders_makeFolders (storage : Storage) (path : String) :
    GainsFolders path storage (storage.makeFolders path).1 := by
  unfold makeFolders
  split
  · exact .refl path storage
  · -- Folders above the path are made only if the path alone cannot be.
    split
    · rename_i made hmade
      exact gainsFolders_ensureFolder hmade
    · refine gainsFolders_ensureAll _ (fun shorter hshorter before after h => ?_) storage
      rcases List.mem_append.mp hshorter with habove | hself
      · obtain ⟨count, hcomponents, hroot⟩ := exists_take_of_mem_above habove
        exact h.of_take hcomponents hroot
      · obtain rfl := List.mem_singleton.mp hself
        exact h
    · exact .refl path storage

end Storage

end Stencil
