import Stencil.Template.Piece

/-!
# Cutting templates into pieces

A text in which no delimiter starts is read over, and becomes a part of one piece with what comes
before and behind it. Behind the delimiter that starts a value the template is cut where the value
ends.

## Main definitions

* `opens`, `opensWithin`: a delimiter starts at the start of a text, and anywhere in it
* `Piece.isPlain c`: a character of a value that neither ends nor quotes anything

## Main results

* `Piece.scan?_text_append`: a literal piece is read over
* `Piece.scan?_print`: a value between delimiters is cut out
-/

namespace Stencil.Template

/-! ## Delimiters -/

/-- A delimiter starts here. -/
def opens : List Char → Bool
  | '\x7b' :: mark :: _ => mark == '\x7b' || mark == '%' || mark == '#'
  | _ => false

/-- A delimiter starts in a text that another one follows. -/
def opensWithin : (cs rest : List Char) → Bool
  | [], _ => false
  | c :: cs, rest => opens (c :: cs ++ rest) || opensWithin cs rest

/-! ## Reading -/

namespace Piece

@[simp]
theorem scan?_text_nil (read : List Char) : scan? (.text read) [] = some (textBefore read []) :=
  rfl

theorem scan?_text_cons {c : Char} {rest : List Char} (h : opens (c :: rest) = false)
    (read : List Char) : scan? (.text read) (c :: rest) = scan? (.text (c :: read)) rest := by
  refine scan?.eq_8 read c rest ?_ ?_ ?_ ?_ ?_ ?_
  all_goals
    rintro after rfl rfl
    simp [opens] at h

/-- **A literal piece** is read over. -/
theorem scan?_text_append {cs rest : List Char} (h : opensWithin cs rest = false)
    (read : List Char) : scan? (.text read) (cs ++ rest) = scan? (.text (cs.reverse ++ read)) rest := by
  induction cs generalizing read with
  | nil => rfl
  | cons c cs ih =>
    rw [opensWithin, Bool.or_eq_false_iff, List.cons_append] at h
    rw [List.cons_append, scan?_text_cons h.1, ih h.2, List.reverse_cons, List.append_assoc]
    rfl

/-- A character between delimiters that neither ends nor quotes anything. -/
def isPlain (c : Char) : Bool := !Reader.isQuote c && c != '-' && c != '\x7d'

theorem scan?_inside {cs : List Char} (h : ∀ c ∈ cs, isPlain c = true) (read rest : List Char) :
    scan? (.inside .print false read) (cs ++ '\x7d' :: '\x7d' :: rest) =
      (scan? (.text []) rest).map
        (.delimited .print ⟨false, false⟩ (read.reverse ++ cs) :: ·) := by
  -- Induction on the characters up to the delimiter, each of which is added to what was read.
  induction cs generalizing read with
  | nil =>
    have hcloser : '\x7d' = Delimiter.print.closer := rfl
    have hclosed : close .print ⟨false, false⟩ read =
        ([.delimited .print ⟨false, false⟩ read.reverse], .text []) := rfl
    rw [List.nil_append, scan?.eq_11 _ _ _ _ _ (fun _ hc => absurd hc (by decide)), if_pos hcloser,
      hclosed, List.append_nil]
    change (do return [delimited .print _ _] ++ (← scan? (.text []) rest)) = _
    cases scan? (.text []) rest <;> rfl
  | cons c cs ih =>
    obtain ⟨hc, hcs⟩ := List.forall_mem_cons.mp h
    simp only [isPlain, Bool.and_eq_true, Bool.not_eq_true', bne_iff_ne] at hc
    obtain ⟨⟨hquote, hdash⟩, hclose⟩ := hc
    have hgrow : grow .print false read c = .inside .print false (c :: read) := by
      rw [grow, hquote, if_neg Bool.false_ne_true]
    have hnext := ih hcs (c :: read)
    rw [List.reverse_cons, List.append_assoc, List.singleton_append] at hnext
    rw [← hnext, ← hgrow]
    cases cs with
    | nil =>
      -- The delimiter comes next, and this character is no part of it.
      exact (scan?.eq_11 _ _ _ _ _ fun _ hc => absurd hc hdash).trans (if_neg hclose)
    | cons d cs =>
      have hd := (List.forall_mem_cons.mp hcs).1
      simp only [isPlain, Bool.and_eq_true, bne_iff_ne] at hd
      refine scan?.eq_12 _ _ _ _ _ (fun _ _ hc => absurd hc hdash) fun _ hrest => ?_
      exact hd.2 (List.cons.inj hrest).1

/-- **A value between delimiters** ends what was read before, and is cut out. -/
theorem scan?_print {inside : List Char} (h : ∀ c ∈ inside, isPlain c = true)
    (read rest : List Char) :
    scan? (.text read) ('\x7b' :: '\x7b' :: inside ++ '\x7d' :: '\x7d' :: rest) =
      (scan? (.text []) rest).map fun pieces =>
        textBefore read (.delimited .print ⟨false, false⟩ inside :: pieces) := by
  -- The delimiter does not trim, as no dash follows it.
  have hdash : ∀ after, inside ++ '\x7d' :: '\x7d' :: rest ≠ '-' :: after := by
    rintro after hafter
    cases inside with
    | nil => exact absurd (List.cons.inj hafter).1 (by decide)
    | cons c cs =>
      have hc := h c List.mem_cons_self
      rw [(List.cons.inj hafter).1] at hc
      exact absurd hc (by decide)
  rw [List.cons_append, List.cons_append, scan?.eq_3 _ _ hdash, scan?_inside h]
  cases scan? (.text []) rest <;> rfl

end Piece

end Stencil.Template
