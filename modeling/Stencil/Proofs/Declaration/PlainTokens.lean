import Stencil.Proofs.Declaration.PlainPlaces
import Stencil.Proofs.Json.SideBySide

/-!
# Tokens of a text with plain references

A text and the same text with plain references are scanned side by side. They have the same tokens,
as long as no backslash escapes the dollar sign of a `$ref`: inside a text literal there is one
character less, and everywhere else both a dollar sign and an `r` are a fault.

## Main definitions

* `LosesDollars`: some dollar signs in front of `ref` are gone
* `Progress.Unescaped`: no `$ref` stands behind the backslash of an escape
* `Document.SameToken`: the same token in both texts

## Main results

* `Token.scan_alike`: the tokens of both texts
* `Document.plain_tokens`: a JSON text with plain references is a JSON text with the same tokens
  but for the references
-/

namespace Stencil

/-- The same characters, where some dollar signs in front of `ref` are gone. -/
inductive LosesDollars : List Char → List Char → Prop
  | nil : LosesDollars [] []
  | cons (c : Char) {cs ds : List Char} : LosesDollars cs ds → LosesDollars (c :: cs) (c :: ds)
  | reference {cs ds : List Char} : LosesDollars cs ds →
    LosesDollars (marked 1 ++ cs) (marked 0 ++ ds)

namespace LosesDollars

theorem refl (cs : List Char) : LosesDollars cs cs := by
  induction cs with
  | nil => exact .nil
  | cons c cs ih => exact .cons c ih

theorem append {as bs cs ds : List Char} (h₁ : LosesDollars as bs) (h₂ : LosesDollars cs ds) :
    LosesDollars (as ++ cs) (bs ++ ds) := by
  induction h₁ with
  | nil => exact h₂
  | cons c _ ih => exact .cons c ih
  | reference _ ih =>
    rw [List.append_assoc, List.append_assoc]
    exact .reference ih

theorem accumulates : Json.Accumulates LosesDollars where
  nil := .nil
  snoc c h := h.append (.refl [c])

end LosesDollars

/-- The same text, where some dollar signs in front of `ref` are gone. -/
def PlainerText (s s' : String) : Prop := LosesDollars s.toList s'.toList

namespace Json

variable {R : Nat → Place → Place → Prop} {k : Nat}

namespace Progress

/-! ## A reference on both sides -/

/-- A character that neither is a digit nor goes on with a numeral in any other way ends it. -/
theorem stepNumeral_of_foreign {c : Char} (hdigit : ¬ c.isDigit = true)
    (hmarks : c ∉ ['0', '.', 'e', 'E', '+', '-']) (start : Place) (part : NumeralPart)
    (read : Numeral) (place : Place) :
    stepNumeral start part read place c =
      if canEnd part then endNumeral start read place c
      else .stop [.broken start false .badNumeral (place.within c 1)] := by
  simp only [List.mem_cons, List.not_mem_nil, or_false, not_or] at hmarks
  obtain ⟨hzero, hpoint, he, hE, hplus, hminus⟩ := hmarks
  cases part <;> simp [stepNumeral, canEnd, hdigit, hzero, hpoint, he, hE, hplus, hminus]

/-- What is missing of a word does not start as a reference does, with or without a dollar sign. -/
theorem wordRests_not_reference : ∀ rest ∈ wordRests, rest = [] ∨
    rest.head? ≠ some '$' ∧
      (rest.head? ≠ some 'r' ∨ rest.tail ≠ [] ∧ rest.tail.head? ≠ some 'e') := by
  decide

end Progress

namespace Token

open Progress

theorem scanFrom_of_step_eq_stop {progress : Progress} {place : Place} {c : Char}
    {tokens : List Token} (h : step progress place c = .stop tokens) (cs : List Char) :
    scanFrom progress place (c :: cs) = tokens := by
  rw [scanFrom, h]

theorem scanFrom_hex_of_eq_none {c : Char} (hc : hexValue? c = none) (start : Place)
    (read : List Char) (high : Option Nat) (missing : Nat) (value : Option Nat) (place : Place)
    (cs : List Char) : ∃ reason place', scanFrom (.hex start read high missing value) place
      (c :: cs) = [broken start true reason place'] := by
  have hvalue : (do return (← value) * 16 + (← hexValue? c)) = none := by
    cases value <;> simp [hc]
  rw [scanFrom, step, hvalue]
  split_ifs
  · exact scanFrom_hex_none start read high _ _ cs
  · exact ⟨.badEscape, _, rfl⟩

theorem scanFrom_word_of_ne {c expected : Char} (h : c ≠ expected) (start : Place)
    (value : Scalar) (rest : List Char) (place : Place) (cs : List Char) :
    scanFrom (.word start value (expected :: rest)) place (c :: cs) =
      [broken start false .badLiteral (place.within c 1)] := by
  rw [scanFrom, step]
  simp only [if_pos h]

theorem scanFrom_word_of_eq {rest : List Char} (h : rest ≠ []) (start : Place) (value : Scalar)
    (place : Place) (c : Char) (cs : List Char) :
    scanFrom (.word start value (c :: rest)) place (c :: cs) =
      scanFrom (.word start value rest) (place.after c) cs := by
  have hempty : ¬ rest.isEmpty = true := mt List.isEmpty_iff.mp h
  rw [scanFrom, step]
  simp [hempty]

theorem scanFrom_word_alike {start start' : Place} {rest : List Char} (hrest : rest ∈ wordRests)
    (value : Scalar) {place place' : Place} (hplace : R k place place') (cs cs' : List Char) :
    List.Forall₂ (Token.Alike R LosesDollars)
      (scanFrom (.word start value rest) place (marked 1 ++ cs))
      (scanFrom (.word start' value rest) place' (marked 0 ++ cs')) := by
  have hfault : ∀ at₁ at₂, List.Forall₂ (Token.Alike R LosesDollars)
      [broken start false .badLiteral at₁]
      [broken start' false .badLiteral at₂] := fun _ _ => .cons .broken .nil
  have hword := wordRests_not_reference rest hrest
  cases rest with
  | nil => exact .cons (.same hplace hplace) .nil
  | cons expected rest =>
    obtain ⟨hdollar, hr⟩ := hword.resolve_left (List.cons_ne_nil _ _)
    have hleft : scanFrom (.word start value (expected :: rest)) place (marked 1 ++ cs) =
        [broken start false .badLiteral (place.within '$' 1)] :=
      scanFrom_word_of_ne (fun h => hdollar (congrArg some h.symm)) start value rest place _
    rw [hleft]
    by_cases hexpected : 'r' = expected
    · -- The `r` of the reference goes on with the word, but its `e` does not.
      subst hexpected
      obtain ⟨hne, he⟩ := hr.resolve_left fun h => h rfl
      have hnext : scanFrom (.word start' value ('r' :: rest)) place' (marked 0 ++ cs') =
          scanFrom (.word start' value rest) (place'.after 'r') ('e' :: 'f' :: cs') :=
        scanFrom_word_of_eq hne start' value place' 'r' _
      rw [hnext]
      obtain ⟨second, rest, rfl⟩ := List.exists_cons_of_ne_nil hne
      rw [scanFrom_word_of_ne fun h => he (congrArg some h.symm)]
      exact hfault _ _
    · have hright : scanFrom (.word start' value (expected :: rest)) place' (marked 0 ++ cs') =
          [broken start' false .badLiteral (place'.within 'r' 1)] :=
        scanFrom_word_of_ne hexpected start' value rest place' _
      rw [hright]
      exact hfault _ _

theorem scanFrom_numeral_alike {start start' : Place} (hstart : R k start start')
    (part : NumeralPart) (read : Numeral) {place place' : Place} (hplace : R k place place')
    (cs cs' : List Char) :
    List.Forall₂ (Token.Alike R LosesDollars)
      (scanFrom (.numeral start part read) place (marked 1 ++ cs))
      (scanFrom (.numeral start' part read) place' (marked 0 ++ cs')) := by
  have hdollar := @stepNumeral_of_foreign '$' (by decide) (by decide) start part read place
  have hr := @stepNumeral_of_foreign 'r' (by decide) (by decide) start' part read place'
  have hstops : ∃ tokens tokens', List.Forall₂ (Token.Alike R LosesDollars) tokens tokens' ∧
      step (.numeral start part read) place '$' = .stop tokens ∧
      step (.numeral start' part read) place' 'r' = .stop tokens' := by
    rw [step, step, hdollar, hr]
    split_ifs
    · unfold endNumeral
      cases read.value? with
      | none => exact ⟨_, _, .cons .broken .nil, rfl, rfl⟩
      | some value =>
        exact ⟨_, _, .cons (.same hstart hplace) (.cons (.same hplace hplace) .nil), rfl, rfl⟩
    · exact ⟨_, _, .cons .broken .nil, rfl, rfl⟩
  obtain ⟨tokens, tokens', htokens, hleft, hright⟩ := hstops
  have hscan : scanFrom (.numeral start part read) place (marked 1 ++ cs) = tokens :=
    scanFrom_of_step_eq_stop hleft _
  have hscan' : scanFrom (.numeral start' part read) place' (marked 0 ++ cs') = tokens' :=
    scanFrom_of_step_eq_stop hright _
  rwa [hscan, hscan']

/-- **A reference** that stands neither in a text nor behind a backslash is a fault, with a dollar
sign and without it. -/
theorem scanFrom_reference_alike {progress progress' : Progress}
    (h : progress.Alike R LosesDollars k progress') (hproper : progress.Proper)
    (htext : ∀ start read, progress ≠ .text start read)
    (hescape : ∀ start read, progress ≠ .escape start read) {place place' : Place}
    (hplace : R k place place') (cs cs' : List Char) :
    List.Forall₂ (Token.Alike R LosesDollars) (scanFrom progress place (marked 1 ++ cs))
      (scanFrom progress' place' (marked 0 ++ cs')) := by
  cases h with
  | between => exact .cons (.same hplace hplace) .nil
  | word _ => exact scanFrom_word_alike hproper _ hplace cs cs'
  | numeral hstart => exact scanFrom_numeral_alike hstart _ _ hplace cs cs'
  | text _ _ => exact absurd rfl (htext _ _)
  | escape _ _ => exact absurd rfl (hescape _ _)
  | @hex j start start' read read' high missing value _ _ =>
    obtain ⟨reason, at₁, h₁⟩ := @scanFrom_hex_of_eq_none '$' rfl start read high missing value place
      ('r' :: 'e' :: 'f' :: cs)
    obtain ⟨reason', at₂, h₂⟩ := @scanFrom_hex_of_eq_none 'r' rfl start' read' high missing value
      place' ('e' :: 'f' :: cs')
    have hgoal : List.Forall₂ (Token.Alike R LosesDollars) [.broken start true reason at₁]
        [.broken start' true reason' at₂] := .cons .broken .nil
    rwa [← h₁, ← h₂] at hgoal
  | pair _ _ | pairEscape _ _ => exact .cons .broken .nil

theorem scanFrom_text_marked (n : Nat) (hn : n ≤ 1) (start : Place) (read : List Char)
    (place : Place) (cs : List Char) :
    scanFrom (.text start read) place (marked n ++ cs) =
      scanFrom (.text start ((marked n).reverse ++ read)) (place.afterAll (marked n)) cs := by
  obtain rfl | rfl := Nat.le_one_iff_eq_zero_or_eq_one.mp hn <;> rfl

end Token

/-! ## Whole texts -/

/-- No `$ref` that comes next stands behind the backslash of an escape. -/
def Progress.Unescaped (progress : Progress) (place : Place) : List Char → Prop
  | [] => True
  | c :: rest =>
    ((∃ start read, progress = .escape start read) → ¬ marked 1 <+: c :: rest) ∧
      match progress.step place c with
      | .more _ next => next.Unescaped (place.after c) rest
      | .stop _ => True

namespace Token

open Progress

/-- In a text without a fault nothing escapes a dollar sign. -/
theorem unescaped_of_clean {progress : Progress} (hproper : progress.Proper) {place : Place}
    {cs : List Char} (h : Clean (scanFrom progress place cs)) : progress.Unescaped place cs := by
  induction cs generalizing progress place with
  | nil => trivial
  | cons c cs ih =>
    have hstep := step_proper hproper place c
    rw [scanFrom] at h
    constructor
    · rintro ⟨start, read, rfl⟩ ⟨after, hafter⟩
      obtain ⟨rfl, -⟩ := List.cons.inj hafter
      exact not_clean_broken start true .badEscape (place.within '$' 1) h
    · cases hnext : step progress place c with
      | more tokens next =>
        rw [hnext] at hstep h
        exact ih hstep.2 (clean_of_clean_append hstep.1 h)
      | stop tokens => trivial

variable {cs : List Char}

/-- **Side by side**: the tokens from a place on, in a text and in the text with plain
references. -/
theorem scanFrom_alike {done rest : List Char} (h : Reached cs k done rest)
    {progress progress' : Progress} (hprogress : progress.Alike (Cut cs) LosesDollars k progress')
    (hproper : progress.Proper)
    (hunescaped : progress.Unescaped (({} : Place).afterAll done) rest) :
    List.Forall₂ (Token.Alike (Cut cs) LosesDollars)
      (scanFrom progress (({} : Place).afterAll done) rest)
      (scanFrom progress' (({} : Place).afterAll (plainReferences done))
        (plainReferences rest)) := by
  -- The induction follows the pass over the text, which takes a whole `$ref` at a time.
  induction rest using induction_on_references generalizing done progress progress' k with
  | nil => exact finish_alike h.cut hprogress
  | reference rest ih =>
    rw [plainReferences_marked]
    by_cases htext : ∃ start read, progress = .text start read
    · -- A text literal goes on on both sides, with one character more in the one.
      obtain ⟨start, read, rfl⟩ := htext
      cases hprogress with
      | @text j _ start' _ read' hstart hread =>
        have hmarked : LosesDollars ((marked 1).reverse ++ read).reverse
            ((marked 0).reverse ++ read').reverse := by
          simp only [List.reverse_append, List.reverse_reverse]
          exact hread.append (.reference .nil)
        have hrest := ih h.reference (.text hstart hmarked) trivial (by
          rw [Place.afterAll_append]
          exact hunescaped.2.2.2.2)
        rw [h.plain_append_marked, Place.afterAll_append, Place.afterAll_append] at hrest
        rwa [scanFrom_text_marked 1 (le_refl 1), scanFrom_text_marked 0 (Nat.zero_le 1)]
    · -- Anywhere else both sides end with a fault.
      refine scanFrom_reference_alike hprogress hproper ?_ ?_ h.cut rest (plainReferences rest)
      · exact fun start read heq => htext ⟨start, read, heq⟩
      · exact fun start read heq => hunescaped.1 ⟨start, read, heq⟩ (List.prefix_append _ rest)
  | cons c rest hne ih =>
    -- The same character on both sides.
    have hsnoc := h.cons hne
    have hafter := hsnoc.cut
    rw [h.plain_snoc, Place.afterAll_append, Place.afterAll_append] at hafter
    have hstep := step_alike LosesDollars.accumulates h.cut hafter hprogress
    have hproper' := step_proper hproper (({} : Place).afterAll done) c
    have hunescaped' := hunescaped.2
    rw [plainReferences_cons hne, scanFrom, scanFrom]
    revert hstep hproper' hunescaped'
    generalize step progress _ c = next
    generalize step progress' _ c = next'
    intro hstep hproper' hunescaped'
    cases hstep with
    | stop htokens => exact htokens
    | more htokens hnext =>
      have hrest := ih hsnoc hnext hproper'.2 (by
        rw [Place.afterAll_append]
        exact hunescaped')
      rw [h.plain_snoc, Place.afterAll_append, Place.afterAll_append] at hrest
      exact List.rel_append htokens hrest

/-- **The tokens of a text and of the text with plain references**, if nothing escapes the dollar
sign of a reference. -/
theorem scan_alike {text : String}
    (h : Progress.between.Unescaped {} text.toList) :
    List.Forall₂ (Token.Alike (Cut text.toList) LosesDollars) (scan text)
      (scan (Document.plain text)) := by
  have hscan := scanFrom_alike (Reached.start text.toList) .between trivial h
  rwa [scan, scan, Document.toList_plain]

end Token

/-- The trees of both texts are alike. -/
theorem TextTree.read_alike {text : String} (h : Progress.between.Unescaped {} text.toList) :
    (TextTree.read text).Alike PlainerText (TextTree.read (Document.plain text)) := by
  refine TextTree.grow_alike ?_
  exact (Token.scan_alike h).imp fun t t' ht => ht.lexeme LosesDollars.refl

end Json

namespace Document

open Json

/-- The same token in a text and in the text with plain references. Only what a text token is
written with may lose dollar signs. -/
structure SameToken (text : String) (t t' : Token) : Prop where
  raw_eq : t'.raw (plain text) = plainReferences (t.raw text)
  lexeme : (∃ s s', t.lexeme = .scalar (.text s) ∧ t'.lexeme = .scalar (.text s')) ∨
    t'.lexeme = t.lexeme ∧ t'.raw (plain text) = t.raw text

theorem sameToken_of_alike {text : String} {t t' : Token}
    (ht : t.Alike (Cut text.toList) LosesDollars t')
    (hpasses : t.lexeme.Passes ∨ t.lexeme = .finish) : SameToken text t t' := by
  cases ht with
  | same hstart hstop =>
    have hraw := hstart.between_plain hstop
    have heq := hstart.between_eq hstop
    rw [← toList_plain] at hraw heq
    exact ⟨hraw, Or.inr ⟨rfl, heq⟩⟩
  | text _ hstart hstop =>
    have hraw := hstart.between_plain hstop
    rw [← toList_plain] at hraw
    exact ⟨hraw, Or.inl ⟨_, _, rfl, rfl⟩⟩
  | broken =>
    rcases hpasses with hpasses | hfinish
    · exact hpasses.elim
    · cases hfinish

/-- **A JSON text with plain references** is a JSON text. Both have the same tokens, except that
the texts are written with plain references, and the same tree: the same nesting, numbers and
literals and as many members and items, as far as they are written. -/
theorem plain_tokens {text : String} (h : IsJson text) :
    IsJson (plain text) ∧
      List.Forall₂ (SameToken text) (Token.scan text) (Token.scan (plain text)) ∧
      (TextTree.read text).root.Alike PlainerText (TextTree.read (plain text)).root := by
  have hsound := isJson_iff.mp h
  have hclean := TextTree.clean_of_sound (.value (List.forall_mem_nil _)) hsound
  have hunescaped := @Token.unescaped_of_clean .between trivial _ _ hclean
  have htree := TextTree.read_alike hunescaped
  refine ⟨isJson_iff.mpr (htree.sound_iff.mp hsound), ?_, htree.root⟩
  have hpasses := @Token.forall_of_clean .between trivial _ _ hclean
  have htokens := (List.forall₂_and_left _ _).mpr ⟨hpasses, Token.scan_alike hunescaped⟩
  exact htokens.imp fun t t' ht => sameToken_of_alike ht.2 ht.1

/-- A text with a reference behind an escaped backslash and one behind another dollar sign. -/
def referencesText : String := "\x7b\"\\\\$ref\":[\"$$ref\",-1.5e3],\"$re\":true\x7d"

theorem plain_tokens_references :
    IsJson referencesText ∧
      plain referencesText = "\x7b\"\\\\ref\":[\"$ref\",-1.5e3],\"$re\":true\x7d" ∧
      IsJson (plain referencesText) ∧
      List.Forall₂ (SameToken referencesText) (Token.scan referencesText)
        (Token.scan (plain referencesText)) := by
  have hjson : IsJson referencesText := by decide +kernel
  obtain ⟨hplain, htokens, -⟩ := plain_tokens hjson
  exact ⟨hjson, by decide +kernel, hplain, htokens⟩

end Document

end Stencil
