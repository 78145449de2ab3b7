import Stencil.Address.Locator
import Stencil.Proofs.Storage.Path

/-!
# Names of files

A locator names a file: the last component of its path, unless this goes up. Its stem is the name
of the declaration, which therefore is no empty name, has no slash, and holds nothing that the name
of the file does not hold. A stem consists of allowed characters, of which the dot is none, just
where the file is called by a word of them, with at most one dot and an extension behind it.

## Main definitions

* `Path.fileName? path`, `Locator.fileName? locator`: the name of the file
* `Path.IsWord allowed name`: a file is called by a word of allowed characters
* `Locator.NamesWord allowed locator`: so is the file that a locator names, if it names one

## Main results

* `Path.stem_cases`: what stems are
* `Path.forall_mem_stem_iff`: stems of allowed characters
* `Locator.baseName_eq`: the name of a declaration is a stem
* `Locator.forall_mem_baseName_iff`: names of allowed characters
-/

namespace Stencil

/-! ## Stems -/

namespace Path

/-- A stem is all of the name, or what stands before its last dot. -/
theorem stem_cases (name : List Char) :
    stem name = name ∨
      ∃ extension, stem name ≠ [] ∧ '.' ∉ extension ∧ name = stem name ++ '.' :: extension := by
  cases hcut : Text.cutLast? '.' name with
  | none =>
    left
    rw [stem, hcut]
  | some parts =>
    obtain ⟨before, extension⟩ := parts
    obtain ⟨hname, hdot⟩ := Text.cutLast?_eq_some_iff.mp hcut
    cases before with
    | nil =>
      -- A dot in front does not count.
      left
      rw [stem, hcut]
    | cons c rest =>
      have hstem : stem name = c :: rest := by rw [stem, hcut]
      rw [hstem]
      exact Or.inr ⟨extension, List.cons_ne_nil c rest, hdot, hname⟩

/-- A stem starts like the name. -/
theorem head?_stem (name : List Char) : (stem name).head? = name.head? := by
  rcases stem_cases name with hstem | ⟨extension, hnonempty, -, hname⟩
  · rw [hstem]
  · obtain ⟨c, rest, hstem⟩ := List.exists_cons_of_ne_nil hnonempty
    rw [congrArg List.head? hname, hstem]
    rfl

theorem stem_ne_nil {name : List Char} (h : name ≠ []) : stem name ≠ [] := by
  rcases stem_cases name with hstem | ⟨extension, hnonempty, -, -⟩
  · rwa [hstem]
  · exact hnonempty

theorem mem_of_mem_stem {name : List Char} {c : Char} (h : c ∈ stem name) : c ∈ name := by
  rcases stem_cases name with hstem | ⟨extension, -, -, hname⟩
  · rwa [hstem] at h
  · rw [hname]
    exact List.mem_append_left _ h

/-- A file is called by a word of allowed characters, possibly with an extension behind it. -/
def IsWord (allowed : Char → Bool) (name : List Char) : Prop :=
  ∃ word, word ≠ [] ∧ (∀ c ∈ word, allowed c = true) ∧
    (name = word ∨ ∃ extension, '.' ∉ extension ∧ name = word ++ '.' :: extension)

/-- **Stems of allowed characters**, where no dot is allowed. -/
theorem forall_mem_stem_iff {allowed : Char → Bool} (hdot : allowed '.' = false)
    {name : List Char} (hne : name ≠ []) :
    (∀ c ∈ stem name, allowed c = true) ↔ IsWord allowed name := by
  constructor
  · intro hall
    rcases stem_cases name with hstem | ⟨extension, hnonempty, hextension, hname⟩
    · rw [hstem] at hall
      exact ⟨name, hne, hall, Or.inl rfl⟩
    · exact ⟨stem name, hnonempty, hall, Or.inr ⟨extension, hextension, hname⟩⟩
  · rintro ⟨word, hword, hall, hname⟩
    have hnot : '.' ∉ word := by
      intro hmem
      rw [hall '.' hmem] at hdot
      cases hdot
    have hstem : stem name = word := by
      rcases hname with rfl | ⟨extension, hextension, rfl⟩
      · rw [stem, Text.cutLast?_eq_none_iff.mpr hnot]
      · obtain ⟨c, rest, rfl⟩ := List.exists_cons_of_ne_nil hword
        rw [stem, Text.cutLast?_append_cons hextension]
    rwa [hstem]

/-! ## Names of files -/

/-- The name of the file that a path names, if it names one. -/
def fileName? (path : String) : Option (List Char) :=
  (components path.toList).getLast?.filter (· != ['.', '.'])

theorem fileStem?_eq_map (path : String) :
    fileStem? path = (fileName? path).map fun name => String.ofList (stem name) := by
  unfold fileStem? fileName?
  split
  · rename_i hlast
    rw [hlast]
    rfl
  · rename_i hlast
    rw [hlast]
    rfl
  · rename_i name hdots hlast
    have hne : (name != ['.', '.']) = true := bne_iff_ne.mpr fun hname => hdots hname
    rw [hlast, Option.filter_some, if_pos hne, Option.map_some]

theorem mem_pieces_of_fileName? {path : String} {name : List Char}
    (h : fileName? path = some name) : name ∈ pieces path.toList := by
  have hlast := (Option.filter_eq_some_iff.mp h).1
  exact mem_pieces_of_mem_components (List.mem_of_getLast? hlast)

end Path

namespace Locator

/-- The name of the file that a locator names, if it names one: at an address that is the last
segment of the path. -/
def fileName? : Locator → Option (List Char)
  | remote url => url.path.getLast?.bind Path.fileName?
  | localFile path => Path.fileName? path

/-- The name of a file is a piece of a path. -/
theorem exists_pieces_of_fileName? {locator : Locator} {name : List Char}
    (h : locator.fileName? = some name) : ∃ path, name ∈ Path.pieces path := by
  cases locator with
  | remote url =>
    obtain ⟨segment, -, hsegment⟩ := Option.bind_eq_some_iff.mp h
    exact ⟨segment.toList, Path.mem_pieces_of_fileName? hsegment⟩
  | localFile path => exact ⟨path.toList, Path.mem_pieces_of_fileName? h⟩

theorem ne_nil_of_fileName? {locator : Locator} {name : List Char}
    (h : locator.fileName? = some name) : name ≠ [] := by
  obtain ⟨path, hpiece⟩ := exists_pieces_of_fileName? h
  exact Path.ne_nil_of_mem_pieces hpiece

/-! ## Names of declarations -/

/-- **The name of a declaration** is the stem of the file, if there is one. -/
theorem baseName_eq (locator : Locator) :
    locator.baseName =
      (locator.fileName?.map fun name => String.ofList (Path.stem name)).getD fallbackName := by
  cases locator with
  | remote url =>
    rw [baseName, fileName?]
    cases url.path.getLast? with
    | none => rfl
    | some segment => rw [Option.bind_some, Option.bind_some, Path.fileStem?_eq_map]
  | localFile path => rw [baseName, fileName?, Path.fileStem?_eq_map]

/-- The name of a declaration holds something. -/
theorem baseName_ne_empty (locator : Locator) : locator.baseName ≠ "" := by
  rw [baseName_eq]
  cases hname : locator.fileName? with
  | none => decide
  | some name =>
    have hstem := Path.stem_ne_nil (ne_nil_of_fileName? hname)
    simpa using hstem

/-- The name of a declaration has no slash. -/
theorem slash_notMem_baseName (locator : Locator) : '/' ∉ locator.baseName.toList := by
  rw [baseName_eq]
  cases hname : locator.fileName? with
  | none => decide
  | some name =>
    obtain ⟨path, hpiece⟩ := exists_pieces_of_fileName? hname
    intro hslash
    apply Path.slash_notMem_of_mem_pieces hpiece
    apply Path.mem_of_mem_stem
    simpa using hslash

/-! ## Names of allowed characters -/

/-- The file that a locator names, if it names one, is called by a word of allowed characters,
possibly with an extension behind it. -/
def NamesWord (allowed : Char → Bool) (locator : Locator) : Prop :=
  ∀ name, locator.fileName? = some name → Path.IsWord allowed name

/-- The file that a locator names has a digit in front. -/
def StartsWithDigit (locator : Locator) : Prop :=
  ∃ name digit, locator.fileName? = some name ∧ name.head? = some digit ∧ digit.isDigit = true

/-- **The name of a declaration** holds allowed characters only. -/
theorem forall_mem_baseName_iff (locator : Locator) {allowed : Char → Bool}
    (hdot : allowed '.' = false) (hletters : ∀ c ∈ fallbackName.toList, allowed c = true) :
    (∀ c ∈ locator.baseName.toList, allowed c = true) ↔ locator.NamesWord allowed := by
  rw [baseName_eq, NamesWord]
  cases hname : locator.fileName? with
  | none => simpa using hletters
  | some name =>
    have hword := Path.forall_mem_stem_iff hdot (ne_nil_of_fileName? hname)
    simpa using hword

/-- The name of a declaration has a digit in front if the file has one. -/
theorem exists_head?_baseName_iff (locator : Locator) :
    (∃ digit, locator.baseName.toList.head? = some digit ∧ digit.isDigit = true) ↔
      locator.StartsWithDigit := by
  rw [baseName_eq, StartsWithDigit]
  cases hname : locator.fileName? with
  | none => simp [fallbackName]
  | some name => simp [Path.head?_stem]

end Locator

end Stencil
