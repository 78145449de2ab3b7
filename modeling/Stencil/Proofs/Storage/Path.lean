import Stencil.Proofs.Text.Cutting
import Stencil.Storage.Path

/-!
# Pieces of paths

Paths that are cut at their slashes, one behind the other, are cut one after the other. So names
that are put behind one text differ in the last piece only, and components with slashes in
between are cut into themselves.

## Main results

* `Path.exists_pieces_append`: a name behind a text completes the last piece of the text
* `Path.exists_join_append`: to join a folder and a prefixed name is to put the name behind a text
* `Path.pieces_join`: a name behind a folder is one more piece
* `Path.components_intercalate`: components with slashes in between
-/

namespace Stencil

namespace Path

/-! ## Pieces -/

theorem pieces_append_slash (left right : List Char) :
    pieces (left ++ '/' :: right) = pieces left ++ pieces right := by
  simp only [pieces, Text.piecesWhere]
  rw [Text.splitWhere_append_cons (by decide), List.filter_append]

theorem pieces_of_notMem {name : List Char} (h : '/' ∉ name) (hne : name ≠ []) :
    pieces name = [name] := by
  have hinside : ∀ c ∈ name, (c == '/') = false := fun c hc =>
    beq_false_of_ne fun hslash => h (hslash ▸ hc)
  exact Text.piecesWhere_of_forall hne hinside

theorem ne_nil_of_mem_pieces {path piece : List Char} (h : piece ∈ pieces path) : piece ≠ [] :=
  Text.ne_nil_of_mem_piecesWhere h

theorem slash_notMem_of_mem_pieces {path piece : List Char} (h : piece ∈ pieces path) :
    '/' ∉ piece := by
  intro hslash
  have hfalse := Text.not_separator_of_mem_piecesWhere h '/' hslash
  exact absurd hfalse (by decide)

/-- A text ends in what is behind its last slash. -/
theorem exists_last_slash (text : List Char) :
    ∃ last : List Char, '/' ∉ last ∧ (text = last ∨ ∃ front, text = front ++ '/' :: last) := by
  by_cases h : '/' ∈ text
  · obtain ⟨last, front, htext, hlast⟩ := List.eq_append_cons_of_mem (List.mem_reverse.mpr h)
    refine ⟨last.reverse, by simpa using hlast, Or.inr ⟨front.reverse, ?_⟩⟩
    simpa using congrArg List.reverse htext
  · exact ⟨text, h, Or.inl rfl⟩

/-- **A name behind a text** completes the last piece of the text, whatever the name is. -/
theorem exists_pieces_append (text : List Char) :
    ∃ (before : List (List Char)) (last : List Char), ∀ name, '/' ∉ name → last ++ name ≠ [] →
      pieces (text ++ name) = before ++ [last ++ name] := by
  obtain ⟨last, hlast, rfl | ⟨front, rfl⟩⟩ := exists_last_slash text
  · exact ⟨[], text, fun name hname hne => pieces_of_notMem (by simp [hlast, hname]) hne⟩
  · refine ⟨pieces front, last, fun name hname hne => ?_⟩
    rw [List.append_assoc, List.cons_append, pieces_append_slash,
      pieces_of_notMem (by simp [hlast, hname]) hne]

/-! ## Components -/

theorem components_of_forall {names : List (List Char)}
    (h : ∀ name ∈ names, name ≠ ['.']) {path : List Char} (hpieces : pieces path = names) :
    components path = names := by
  rw [components, hpieces]
  exact List.filter_eq_self.mpr fun name hname => bne_iff_ne.mpr (h name hname)

theorem mem_pieces_of_mem_components {path name : List Char} (h : name ∈ components path) :
    name ∈ pieces path := List.mem_of_mem_filter h

theorem ne_dot_of_mem_components {path name : List Char} (h : name ∈ components path) :
    name ≠ ['.'] := bne_iff_ne.mp (List.mem_filter.mp h).2

theorem pieces_intercalate {names : List (List Char)}
    (h : ∀ name ∈ names, name ≠ [] ∧ '/' ∉ name) : pieces (['/'].intercalate names) = names := by
  induction names with
  | nil => rfl
  | cons name names ih =>
    obtain ⟨⟨hne, hslash⟩, hrest⟩ := List.forall_mem_cons.mp h
    cases names with
    | nil => simpa using pieces_of_notMem hslash hne
    | cons next names =>
      rw [List.intercalate_cons_cons, List.append_assoc, List.singleton_append,
        pieces_append_slash, pieces_of_notMem hslash hne, ih hrest]
      rfl

/-- Components with slashes in between, from the root or not, are cut into themselves. -/
theorem components_intercalate {names : List (List Char)} {path : List Char}
    (hnames : ∀ name ∈ names, name ∈ components path) :
    components (['/'].intercalate names) = names ∧
      components ('/' :: ['/'].intercalate names) = names := by
  have hpieces : pieces (['/'].intercalate names) = names := pieces_intercalate fun name hname =>
    have hmem := mem_pieces_of_mem_components (hnames name hname)
    ⟨ne_nil_of_mem_pieces hmem, slash_notMem_of_mem_pieces hmem⟩
  have hdot : ∀ name ∈ names, name ≠ ['.'] := fun name hname =>
    ne_dot_of_mem_components (hnames name hname)
  have hroot : pieces ('/' :: ['/'].intercalate names) = pieces (['/'].intercalate names) :=
    pieces_append_slash [] _
  exact ⟨components_of_forall hdot hpieces, components_of_forall hdot (hroot.trans hpieces)⟩

theorem isAbsolute_intercalate {names : List (List Char)} {path : List Char}
    (hne : names ≠ []) (hnames : ∀ name ∈ names, name ∈ components path) :
    isAbsolute (['/'].intercalate names) = false := by
  obtain ⟨name, rest, rfl⟩ := List.exists_cons_of_ne_nil hne
  have hmem := mem_pieces_of_mem_components (hnames name List.mem_cons_self)
  obtain ⟨c, cs, rfl⟩ := List.exists_cons_of_ne_nil (ne_nil_of_mem_pieces hmem)
  have hc : c ≠ '/' := fun h => slash_notMem_of_mem_pieces hmem (h ▸ List.mem_cons_self)
  cases rest with
  | nil => simp [isAbsolute, hc]
  | cons next rest => simp [isAbsolute, List.intercalate_cons_cons, hc]

/-! ## Joining -/

theorem join_of_head_slash {left right : String} (h : right.toList.head? = some '/') :
    join left right = right := by
  rw [join, if_pos (by rw [h]; rfl)]

/-- Paths that do not start at the root are put behind a text. -/
theorem exists_join (left : String) :
    ∃ front : String, ∀ right : String, right.toList.head? ≠ some '/' →
      join left right = front ++ right := by
  by_cases hempty : left.isEmpty = true
  · refine ⟨"", fun right hright => ?_⟩
    rw [join, if_neg (by simpa using hright), if_pos hempty, String.empty_append]
  · by_cases hlast : (left.toList.getLast? == some '/') = true
    · refine ⟨left, fun right hright => ?_⟩
      rw [join, if_neg (by simpa using hright), if_neg hempty, if_pos hlast]
    · refine ⟨left ++ "/", fun right hright => ?_⟩
      rw [join, if_neg (by simpa using hright), if_neg hempty, if_neg hlast]

/-- **Joining a folder and a prefixed name** puts the name behind a text that is the same for all
names that do not start with a slash. -/
theorem exists_join_append (folder namePrefix : String) :
    ∃ common : String, ∀ name : String, name.toList.head? ≠ some '/' →
      join folder (namePrefix ++ name) = common ++ name := by
  by_cases hroot : namePrefix.toList.head? = some '/'
  · refine ⟨namePrefix, fun name _ => join_of_head_slash ?_⟩
    rw [String.toList_append, List.head?_append, hroot]
    rfl
  · obtain ⟨front, hfront⟩ := exists_join folder
    refine ⟨front ++ namePrefix, fun name hname => ?_⟩
    rw [hfront, String.append_assoc]
    rw [String.toList_append, List.head?_append]
    cases hhead : namePrefix.toList.head? with
    | none => simpa using hname
    | some c => simpa [hhead] using hroot

/-- A name behind a folder is one more piece. -/
theorem pieces_join (folder : String) {name : String} (hslash : '/' ∉ name.toList)
    (hne : name ≠ "") :
    pieces (join folder name).toList = pieces folder.toList ++ [name.toList] := by
  have hname : pieces name.toList = [name.toList] :=
    pieces_of_notMem hslash fun hnil => hne (String.toList_inj.mp hnil)
  have hhead : ¬ (name.toList.head? == some '/') = true := by
    rw [beq_iff_eq]
    exact fun h => hslash (List.mem_of_mem_head? h)
  rw [join, if_neg hhead]
  split_ifs with hempty hlast
  · rw [String.isEmpty_iff.mp hempty, hname]
    rfl
  · -- The folder ends in a slash.
    obtain ⟨front, hfront⟩ := List.getLast?_eq_some_iff.mp (beq_iff_eq.mp hlast)
    rw [String.toList_append, hfront, List.append_assoc, List.singleton_append,
      pieces_append_slash, pieces_append_slash, hname]
    simp [pieces, Text.piecesWhere, Text.splitWhere]
  · rw [String.toList_append, String.toList_append, List.append_assoc]
    exact (pieces_append_slash _ _).trans (congrArg _ hname)

theorem isAbsolute_join (folder : String) {name : String} (hslash : '/' ∉ name.toList) :
    isAbsolute (join folder name).toList = isAbsolute folder.toList := by
  have hhead : name.toList.head? ≠ some '/' := fun h => hslash (List.mem_of_mem_head? h)
  rw [join, if_neg (by rwa [beq_iff_eq])]
  split_ifs with hempty
  · rw [String.isEmpty_iff.mp hempty, isAbsolute, beq_false_of_ne hhead]
    rfl
  all_goals
    have hne : folder.toList ≠ [] := fun hnil =>
      hempty (String.isEmpty_iff.mpr (String.toList_inj.mp hnil))
    obtain ⟨first, rest, hfolder⟩ := List.exists_cons_of_ne_nil hne
    simp [isAbsolute, hfolder]

end Path

end Stencil
