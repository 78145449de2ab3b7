import Mathlib.Data.List.Infix
import Mathlib.Logic.Function.Iterate
import Stencil.Declaration.Document

/-!
# Texts with plain references

A pass over a text takes the dollar sign away from each `$ref`. Where several dollar signs stand in
front of `ref`, a pass takes the last one, so that a `$ref` is left as long as there was more than
one.

## Main definitions

* `marked n`: `ref` with `n` dollar signs in front

## Main results

* `marked_infix_plainReferences_iff`: what a pass leaves of dollar signs in front of `ref`
* `Document.plain_plain_iff`: when a second pass changes nothing, and how many passes it takes
  until no `$ref` is left
-/

namespace Stencil

/-- `ref` behind `n` dollar signs. -/
def marked (n : Nat) : List Char := List.replicate n '$' ++ ['r', 'e', 'f']

theorem marked_succ (n : Nat) : marked (n + 1) = '$' :: marked n := rfl

/-! ## One pass -/

theorem plainReferences_marked (rest : List Char) :
    plainReferences (marked 1 ++ rest) = marked 0 ++ plainReferences rest := rfl

theorem plainReferences_cons {c : Char} {rest : List Char} (h : ¬ marked 1 <+: c :: rest) :
    plainReferences (c :: rest) = c :: plainReferences rest := by
  refine plainReferences.eq_2 c rest fun after hc hrest => h ?_
  rw [hc, hrest]
  exact ⟨after, rfl⟩

/-- A pass goes over a `$ref` at once and over any other character on its own. -/
@[elab_as_elim]
theorem induction_on_references {motive : List Char → Prop} (nil : motive [])
    (reference : ∀ rest, motive rest → motive (marked 1 ++ rest))
    (cons : ∀ c rest, ¬ marked 1 <+: c :: rest → motive rest → motive (c :: rest))
    (cs : List Char) : motive cs := by
  induction cs using plainReferences.induct with
  | case1 rest ih => exact reference rest ih
  | case2 c rest hne ih =>
    refine cons c rest ?_ ih
    rintro ⟨after, hafter⟩
    obtain ⟨rfl, rfl⟩ := List.cons.inj hafter
    exact hne after rfl rfl
  | case3 => exact nil

/-- A pass changes nothing exactly if there is no `$ref`. -/
theorem plainReferences_eq_self_iff (cs : List Char) :
    plainReferences cs = cs ↔ ¬ marked 1 <:+: cs := by
  induction cs using induction_on_references with
  | nil => simp [plainReferences, marked]
  | reference rest ih =>
    rw [plainReferences_marked]
    constructor
    · intro heq
      exact absurd (List.cons.inj heq).1 (by decide)
    · intro h
      exact absurd (List.prefix_append _ rest).isInfix h
  | cons c rest hne ih =>
    rw [plainReferences_cons hne, List.infix_cons_iff, List.cons.injEq, ih]
    simp [hne]

theorem plainReferences_sublist (cs : List Char) : (plainReferences cs).Sublist cs := by
  induction cs using induction_on_references with
  | nil => exact .slnil
  | reference rest ih =>
    rw [plainReferences_marked]
    exact (List.sublist_cons_self '$' (marked 0)).append ih
  | cons c rest hne ih =>
    rw [plainReferences_cons hne]
    exact ih.cons_cons c

/-! ## Dollar signs that are left -/

/-- A word that has neither a dollar sign nor an `r` is in front after a pass if it was before. -/
theorem prefix_plainReferences_iff {word : List Char} (hdollar : '$' ∉ word) (hr : 'r' ∉ word)
    (cs : List Char) : word <+: plainReferences cs ↔ word <+: cs := by
  induction word generalizing cs with
  | nil => simp
  | cons d word ih =>
    obtain ⟨hd, hdollar⟩ := not_or.mp (mt List.mem_cons.mpr hdollar)
    obtain ⟨hd', hr⟩ := not_or.mp (mt List.mem_cons.mpr hr)
    cases cs using induction_on_references with
    | nil => rfl
    | reference rest _ =>
      rw [plainReferences_marked]
      simp [marked, List.cons_prefix_cons, Ne.symm hd, Ne.symm hd']
    | cons c rest hne _ =>
      rw [plainReferences_cons hne, List.cons_prefix_cons, List.cons_prefix_cons, ih hdollar hr]

/-- A text starts with some dollar signs and `ref` after a pass if there was one more of them
before, or just `ref`. -/
theorem marked_prefix_plainReferences_iff (n : Nat) (cs : List Char) :
    marked n <+: plainReferences cs ↔ marked (n + 1) <+: cs ∨ n = 0 ∧ marked 0 <+: cs := by
  induction n generalizing cs with
  | zero =>
    induction cs using induction_on_references with
    | nil => simp [plainReferences, marked]
    | reference rest _ => simp [plainReferences_marked]
    | cons c rest hne _ =>
      have hword := @prefix_plainReferences_iff ['e', 'f'] (by decide) (by decide) rest
      rw [plainReferences_cons hne]
      simp only [hne, false_or, true_and]
      simp only [marked, List.replicate_zero, List.nil_append, List.cons_prefix_cons, hword]
  | succ n ih =>
    induction cs using induction_on_references with
    | nil => simp [plainReferences, marked_succ]
    | reference rest _ =>
      rw [plainReferences_marked]
      simp [marked, List.replicate_succ, List.cons_prefix_cons]
    | cons c rest hne _ =>
      -- Behind the first dollar sign there is no plain `ref`, as it would have been one with it.
      have hrest : '$' = c → ¬ (n = 0 ∧ marked 0 <+: rest) := by
        rintro rfl ⟨-, hplain⟩
        exact hne (List.cons_prefix_cons.mpr ⟨rfl, hplain⟩)
      rw [plainReferences_cons hne, marked_succ, marked_succ, List.cons_prefix_cons, ih,
        List.cons_prefix_cons]
      simp only [Nat.add_one_ne_zero, false_and, or_false]
      refine and_congr_right fun hc => ?_
      simp [hrest hc]

/-- **What a pass leaves**: there are `n + 1` dollar signs in front of a `ref` if there was one
more of them before. -/
theorem marked_infix_plainReferences_iff (n : Nat) (cs : List Char) :
    marked (n + 1) <:+: plainReferences cs ↔ marked (n + 2) <:+: cs := by
  induction cs using induction_on_references with
  | nil => simp [plainReferences, marked, List.replicate_succ]
  | reference rest ih =>
    rw [plainReferences_marked]
    simp [marked, List.replicate_succ, List.infix_cons_iff] at ih ⊢
    exact ih
  | cons c rest hne ih =>
    rw [plainReferences_cons hne, List.infix_cons_iff, List.infix_cons_iff, ih,
      ← plainReferences_cons hne, marked_prefix_plainReferences_iff]
    simp

/-! ## Several passes -/

/-- **What several passes leave**: each takes one of the dollar signs. -/
theorem marked_infix_iterate_iff (n k : Nat) (cs : List Char) :
    marked (k + 1) <:+: plainReferences^[n] cs ↔ marked (n + k + 1) <:+: cs := by
  induction n generalizing cs with
  | zero => rw [Nat.zero_add, Function.iterate_zero_apply]
  | succ n ih =>
    rw [Function.iterate_succ_apply, ih, marked_infix_plainReferences_iff, Nat.add_right_comm n 1 k]

namespace Document

theorem toList_plain (text : String) : (plain text).toList = plainReferences text.toList :=
  String.toList_ofList

theorem toList_iterate_plain (n : Nat) (text : String) :
    (plain^[n] text).toList = plainReferences^[n] text.toList := by
  have hsemiconj : Function.Semiconj String.toList plain plainReferences := toList_plain
  exact hsemiconj.iterate_right n text

theorem plain_eq_self_iff (text : String) : plain text = text ↔ ¬ marked 1 <:+: text.toList := by
  rw [← plainReferences_eq_self_iff, ← toList_plain, String.toList_inj]

/-- A document is read from the text with plain references only. -/
theorem parse_congr {text other : String} (h : plain text = plain other) :
    parse text = parse other := by
  rw [parse, parse, h]

/-- **A second pass** over a text changes nothing exactly if there are nowhere two dollar signs in
front of `ref`; then the text holds the same document after the first pass. A `$ref` is left after
some passes exactly if there was one more dollar sign than passes. -/
theorem plain_plain_iff (text : String) :
    (∀ n, marked 1 <:+: (plain^[n] text).toList ↔ marked (n + 1) <:+: text.toList) ∧
      (plain (plain text) = plain text ↔ ¬ marked 2 <:+: text.toList) ∧
      (¬ marked 2 <:+: text.toList → parse (plain text) = parse text) := by
  have hpasses : ∀ n, marked 1 <:+: (plain^[n] text).toList ↔ marked (n + 1) <:+: text.toList := by
    intro n
    rw [toList_iterate_plain, marked_infix_iterate_iff n 0, Nat.add_zero]
  have hsecond : plain (plain text) = plain text ↔ ¬ marked 2 <:+: text.toList := by
    rw [plain_eq_self_iff, ← hpasses 1]
    rfl
  exact ⟨hpasses, hsecond, fun h => parse_congr (hsecond.mpr h)⟩

/-- A declaration with a property that has the given text for its only member. -/
def propertyText (member : String) : String :=
  "\x7b\"apis\":[\x7b\"path\":\"/pets\"\x7d]," ++
    "\"models\":\x7b\"Pet\":\x7b\"properties\":\x7b\"owner\":\x7b" ++ member ++ "\x7d\x7d\x7d\x7d\x7d"

theorem plain_plain_iff_reference :
    plain (propertyText "\"$ref\":\"User\"") = propertyText "\"ref\":\"User\"" ∧
      ¬ marked 2 <:+: (propertyText "\"$ref\":\"User\"").toList ∧
      parse (propertyText "\"ref\":\"User\"") = parse (propertyText "\"$ref\":\"User\"") := by
  have hplain : plain (propertyText "\"$ref\":\"User\"") = propertyText "\"ref\":\"User\"" := by
    decide +kernel
  have honce : ¬ marked 2 <:+: (propertyText "\"$ref\":\"User\"").toList := by decide +kernel
  have hparse := (plain_plain_iff (propertyText "\"$ref\":\"User\"")).2.2 honce
  rw [hplain] at hparse
  exact ⟨hplain, honce, hparse⟩

/-- A second pass goes on where two dollar signs stood, so that the document changes: the member
was unknown after the first one and is a reference after the second. -/
theorem plain_plain_ne_doubled :
    plain (plain (propertyText "\"$$ref\":\"User\"")) ≠ plain (propertyText "\"$$ref\":\"User\"") ∧
      (parse (propertyText "\"$$ref\":\"User\"")).toOption.map (·.warnings) =
        some [⟨"models.Pet.properties.owner", "$ref", .unknown⟩] ∧
      (parse (plain (propertyText "\"$$ref\":\"User\""))).toOption.map (·.warnings) =
        some [] := by
  decide +kernel

end Document

end Stencil
