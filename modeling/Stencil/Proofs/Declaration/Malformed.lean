import Stencil.Proofs.Declaration.FaultsFound
import Stencil.Proofs.Declaration.PlainTokens

/-!
# Texts that are not JSON

A text is made a text with plain references before it is read, which may mend a fault: a dollar sign
cannot be escaped, and behind the backslash that stays there is an `r`, which can. No other fault is
mended; so a text that is read is a JSON text, but for dollar signs of references behind a
backslash.

## Main definitions

* `mended cs`, `Document.mend text`: a text without these dollar signs
* `Progress.Mended`: there is nothing to mend in what comes next

## Main results

* `Document.isJson_plain_iff`: when a text with plain references is a JSON text
* `Document.parse_of_not_isJson`: what is read out of a text that is not JSON
-/

namespace Stencil

/-! ## Escaped dollar signs -/

/-- The characters of a text, where a dollar sign between a backslash and `ref` is gone. A backslash
is looked at together with the character behind it. -/
def mended : List Char → List Char
  | '\\' :: '$' :: 'r' :: 'e' :: 'f' :: rest => '\\' :: 'r' :: 'e' :: 'f' :: mended rest
  | '\\' :: c :: rest => '\\' :: c :: mended rest
  | c :: rest => c :: mended rest
  | [] => []

theorem mended_reference (rest : List Char) :
    mended ('\\' :: (marked 1 ++ rest)) = '\\' :: (marked 0 ++ mended rest) := rfl

theorem mended_escape {c : Char} {rest : List Char} (h : ¬ marked 1 <+: c :: rest) :
    mended ('\\' :: c :: rest) = '\\' :: c :: mended rest := by
  refine mended.eq_2 c rest fun after hc hrest => h ?_
  rw [hc, hrest]
  exact ⟨after, rfl⟩

theorem mended_cons {c : Char} (h : c ≠ '\\') (rest : List Char) :
    mended (c :: rest) = c :: mended rest := by
  refine mended.eq_3 c rest ?_ ?_
  · exact fun after hc _ => h hc
  · exact fun _ after hc _ => h hc

/-- A text is mended escape by escape and, elsewhere, character by character. -/
@[elab_as_elim]
theorem induction_on_escapes {motive : List Char → Prop} (nil : motive [])
    (last : motive ['\\'])
    (reference : ∀ rest, motive rest → motive ('\\' :: (marked 1 ++ rest)))
    (escape : ∀ c rest, ¬ marked 1 <+: c :: rest → motive rest → motive ('\\' :: c :: rest))
    (cons : ∀ c rest, c ≠ '\\' → motive rest → motive (c :: rest)) (cs : List Char) :
    motive cs := by
  induction cs using mended.induct with
  | case1 rest ih => exact reference rest ih
  | case2 c rest hne ih =>
    refine escape c rest ?_ ih
    rintro ⟨after, hafter⟩
    obtain ⟨rfl, rfl⟩ := List.cons.inj hafter
    exact hne after rfl rfl
  | case3 c rest _ hne ih =>
    by_cases hc : c = '\\'
    · subst hc
      cases rest with
      | nil => exact last
      | cons d rest => exact (hne d rest rfl rfl).elim
    · exact cons c rest hc ih
  | case4 => exact nil

/-- A word without a backslash is in front of a text exactly if it is after mending. -/
theorem prefix_mended_iff {word : List Char} (hword : '\\' ∉ word) (cs : List Char) :
    word <+: mended cs ↔ word <+: cs := by
  induction word generalizing cs with
  | nil => simp
  | cons d word ih =>
    obtain ⟨hd, hword⟩ := not_or.mp (mt List.mem_cons.mpr hword)
    cases cs using induction_on_escapes with
    | nil => rfl
    | last => rfl
    | reference rest _ =>
      rw [mended_reference]
      simp [List.cons_prefix_cons, Ne.symm hd]
    | escape c rest hne _ =>
      rw [mended_escape hne]
      simp [List.cons_prefix_cons, Ne.symm hd]
    | cons c rest hc _ =>
      rw [mended_cons hc, List.cons_prefix_cons, List.cons_prefix_cons, ih hword]

theorem marked_prefix_cons_mended_iff (c : Char) (rest : List Char) :
    marked 1 <+: c :: mended rest ↔ marked 1 <+: c :: rest := by
  have hmarked := @prefix_mended_iff (marked 0) (by decide) rest
  rw [marked_succ, List.cons_prefix_cons, List.cons_prefix_cons, hmarked]

theorem mended_mended (cs : List Char) : mended (mended cs) = mended cs := by
  induction cs using induction_on_escapes with
  | nil => rfl
  | last => rfl
  | reference rest ih =>
    have hr : ¬ marked 1 <+: 'r' :: 'e' :: 'f' :: mended rest := by
      simp [marked, List.replicate_succ, List.cons_prefix_cons]
    rw [mended_reference]
    change mended ('\\' :: 'r' :: 'e' :: 'f' :: mended rest) = _
    rw [mended_escape hr, mended_cons (by decide), mended_cons (by decide), ih]
    rfl
  | escape c rest hne ih =>
    rw [mended_escape hne, mended_escape (mt (marked_prefix_cons_mended_iff c rest).mp hne), ih]
  | cons c rest hc ih => rw [mended_cons hc, mended_cons hc, ih]

/-- Only a text with a `$ref` behind a backslash is mended. -/
theorem mended_eq_self {cs : List Char} (h : ¬ '\\' :: marked 1 <:+: cs) : mended cs = cs := by
  induction cs using induction_on_escapes with
  | nil => rfl
  | last => rfl
  | reference rest _ => exact absurd (List.prefix_append ('\\' :: marked 1) rest).isInfix h
  | escape c rest hne ih =>
    rw [mended_escape hne, ih fun hfound => h (hfound.trans ?_)]
    exact (List.suffix_append ['\\', c] rest).isInfix
  | cons c rest hc ih =>
    rw [mended_cons hc, ih fun hfound => h (hfound.trans ?_)]
    exact (List.suffix_cons c rest).isInfix

theorem plainReferences_cons_congr {c : Char} {cs ds : List Char}
    (hfront : marked 1 <+: c :: cs ↔ marked 1 <+: c :: ds)
    (h : plainReferences cs = plainReferences ds) :
    plainReferences (c :: cs) = plainReferences (c :: ds) := by
  by_cases hcs : marked 1 <+: c :: cs
  · obtain ⟨after, hafter⟩ := hcs
    obtain ⟨after', hafter'⟩ := hfront.mp ⟨after, hafter⟩
    obtain ⟨rfl, rfl⟩ := List.cons.inj hafter
    obtain ⟨-, rfl⟩ := List.cons.inj hafter'
    exact h
  · rw [plainReferences_cons hcs, plainReferences_cons (mt hfront.mpr hcs), h]

/-- **Mending** does not change what a pass over the text leads to. -/
theorem plainReferences_mended (cs : List Char) :
    plainReferences (mended cs) = plainReferences cs := by
  have hback : ∀ ds, ¬ marked 1 <+: '\\' :: ds := fun ds => by
    simp [marked, List.replicate_succ, List.cons_prefix_cons]
  induction cs using induction_on_escapes with
  | nil => rfl
  | last => rfl
  | reference rest ih =>
    rw [mended_reference, plainReferences_cons (hback _), plainReferences_cons (hback _),
      plainReferences_marked]
    change '\\' :: (marked 0 ++ plainReferences (mended rest)) = _
    rw [ih]
  | escape c rest hne ih =>
    rw [mended_escape hne, plainReferences_cons (hback _), plainReferences_cons (hback _)]
    exact congrArg _ (plainReferences_cons_congr (marked_prefix_cons_mended_iff c rest) ih)
  | cons c rest hc ih =>
    rw [mended_cons hc]
    exact plainReferences_cons_congr (marked_prefix_cons_mended_iff c rest) ih

namespace Json

namespace Progress

/-! ## Reading mended texts -/

/-- There is nothing to mend in what comes next. Behind a bad hexadecimal digit it does not matter,
as the text is at fault. -/
def Mended (progress : Progress) (cs : List Char) : Prop :=
  match progress with
  | .escape _ _ | .pairEscape _ _ _ => mended ('\\' :: cs) = '\\' :: cs
  | .hex _ _ _ _ none => True
  | _ => mended cs = cs

end Progress

/-- There is nothing to mend behind a step. -/
def Step.Mended (rest : List Char) : Step → Prop
  | .more _ next => next.Mended rest
  | .stop _ => True

namespace Progress

variable {c : Char} {rest : List Char}

theorem mended_tail (h : mended (c :: rest) = c :: rest) (hc : c ≠ '\\') : mended rest = rest :=
  (List.cons.inj ((mended_cons hc rest).symm.trans h)).2

theorem mended_behind_escape (h : mended ('\\' :: c :: rest) = '\\' :: c :: rest) :
    mended rest = rest := by
  by_cases hne : marked 1 <+: c :: rest
  · obtain ⟨after, hafter⟩ := hne
    rw [← hafter, mended_reference] at h
    exact absurd (List.cons.inj (List.cons.inj h).2).1 (by decide)
  · rw [mended_escape hne] at h
    exact (List.cons.inj (List.cons.inj h).2).2

theorem begin_mended (place : Place) (h : mended (c :: rest) = c :: rest) :
    (begin place c).Mended rest := by
  cases opens c with
  | stray hbegin =>
    rw [hbegin]
    trivial
  | blank hc hbegin | single _ hc _ hbegin | numeral _ _ hc hbegin | word _ _ hc _ hbegin
  | text hc hbegin =>
    rw [hbegin]
    exact mended_tail h hc

theorem endNumeral_mended (start : Place) (read : Numeral) (place : Place)
    (h : mended (c :: rest) = c :: rest) : (endNumeral start read place c).Mended rest := by
  have hbegin := begin_mended place h
  unfold endNumeral
  cases read.value? with
  | none => trivial
  | some value =>
    revert hbegin
    cases begin place c with
    | more tokens next => exact fun hbegin => hbegin
    | stop tokens => exact fun _ => trivial

theorem endHex_mended (start : Place) (read : List Char) (high value : Option Nat) (place : Place)
    (h : value ≠ none → mended rest = rest) : (endHex start read high value place).Mended rest := by
  cases decodes high value with
  | broken reason hstep =>
    rw [hstep]
    trivial
  | text _ hvalue hstep | pair _ hvalue hstep =>
    rw [hstep]
    exact h hvalue

theorem backslash_notMem_of_mem_wordRests : ∀ word ∈ wordRests, '\\' ∉ word := by decide

/-- **A backslash** is only read in a text, or in front of the second half of a pair. -/
theorem step_mended {progress : Progress} (hproper : progress.Proper) (place : Place)
    (h : progress.Mended (c :: rest)) : (step progress place c).Mended rest := by
  cases progress with
  | between => exact begin_mended place h
  | word start value word =>
    cases word with
    | nil => exact begin_mended place h
    | cons expected word =>
      have hexpected : '\\' ∉ expected :: word := backslash_notMem_of_mem_wordRests _ hproper
      unfold step
      dsimp only
      split_ifs with hc hlast
      · trivial
      all_goals
        refine mended_tail h ?_
        rintro rfl
        exact hexpected (List.mem_cons.mpr (Or.inl (not_not.mp hc)))
  | numeral start part read =>
    dsimp only [step]
    cases extends_cases part read c with
    | broken hstep =>
      obtain ⟨reason, place', hstep⟩ := hstep start place
      rw [hstep]
      trivial
    | further _ _ hc hstep =>
      rw [hstep]
      exact mended_tail h hc
    | ends hstep =>
      rw [hstep]
      exact endNumeral_mended start read place h
  | text start read =>
    unfold step
    dsimp only
    split_ifs with hquote hback
    · exact mended_tail h (by simp [hquote])
    · subst hback
      exact h
    · trivial
    · exact mended_tail h hback
  | escape start read =>
    have hrest := mended_behind_escape h
    unfold step
    dsimp only
    split_ifs
    · exact hrest
    · cases escapedChar? c with
      | some escaped => exact hrest
      | none => trivial
  | hex start read high missing value =>
    have hdigit : (do return (← value) * 16 + (← hexValue? c)) ≠ none → mended rest = rest := by
      cases value with
      | none => exact fun hne => absurd rfl hne
      | some n =>
        refine fun hne => mended_tail h ?_
        rintro rfl
        exact hne rfl
    unfold step
    dsimp only
    revert hdigit
    generalize (do return (← value) * 16 + (← hexValue? c)) = next
    intro hdigit
    split_ifs
    · cases next with
      | none => trivial
      | some n => exact hdigit nofun
    · exact endHex_mended start read high next _ hdigit
  | pair start read high =>
    unfold step
    dsimp only
    split_ifs with hback
    · subst hback
      exact h
    · trivial
  | pairEscape start read high =>
    have hrest := mended_behind_escape h
    unfold step
    dsimp only
    split_ifs
    · exact hrest
    · trivial

/-- In a mended text nothing escapes a dollar sign. -/
theorem unescaped_of_mended {progress : Progress} (hproper : progress.Proper) (place : Place)
    {cs : List Char} (h : progress.Mended cs) : progress.Unescaped place cs := by
  induction cs generalizing progress place with
  | nil => trivial
  | cons c rest ih =>
    constructor
    · -- A `$ref` behind the backslash of an escape would be mended.
      rintro ⟨start, read, rfl⟩ ⟨after, hafter⟩
      rw [← hafter] at h
      exact absurd (List.cons.inj (List.cons.inj h).2).1 (by decide)
    · have hstep := step_mended hproper place h
      have hnext := step_proper hproper place c
      cases hstep' : step progress place c with
      | more tokens next =>
        rw [hstep'] at hstep hnext
        exact ih hnext.2 (place.after c) hstep
      | stop tokens => trivial

end Progress

end Json

namespace Document

open Json

/-- A text without the dollar signs of references behind a backslash. -/
def mend (text : String) : String := String.ofList (mended text.toList)

theorem plain_mend (text : String) : plain (mend text) = plain text := by
  rw [plain, plain, mend, String.toList_ofList, plainReferences_mended]

/-- **A text with plain references is a JSON text** exactly if the mended one is. -/
theorem isJson_plain_iff (text : String) : IsJson (plain text) ↔ IsJson (mend text) := by
  have hmended : Progress.between.Mended (mend text).toList := by
    rw [mend, String.toList_ofList]
    exact mended_mended text.toList
  have hunescaped := @Progress.unescaped_of_mended .between trivial {} _ hmended
  rw [isJson_iff, isJson_iff, ← plain_mend]
  exact (TextTree.read_alike hunescaped).sound_iff.symm

/-- **A text that is not JSON** is not read, unless the dollar signs of references behind a
backslash are its only faults: a text with such a reference may be read as if they were not
there. -/
theorem parse_of_not_isJson {text : String} (h : ¬ IsJson text) :
    (¬ IsJson (mend text) →
      ∃ fault, Declaration.read (plain text) = .error fault ∧
        parse text = .error (.invalidJson fault.message)) ∧
    (IsJson (mend text) →
      '\\' :: marked 1 <:+: text.toList ∧ parse text = parse (mend text)) := by
  constructor
  · intro hmend
    unfold parse
    cases hread : Declaration.read (plain text) with
    | error fault => exact ⟨fault, rfl, rfl⟩
    | ok declaration =>
      have hplain := Declaration.isJson_of_read hread
      exact absurd ((isJson_plain_iff text).mp hplain) hmend
  · intro hmend
    refine ⟨?_, (parse_congr (plain_mend text)).symm⟩
    -- Without such a reference the text is mended as it is, and it is not JSON.
    by_contra hfound
    rw [mend, mended_eq_self hfound, String.ofList_toList] at hmend
    exact h hmend

/-- A declaration with a group of operations whose description is written as given. -/
def describedText (description : String) : String :=
  "\x7b\"apis\":[\x7b\"path\":\"/pets\",\"description\":" ++ description ++ "\x7d]\x7d"

theorem parse_of_not_isJson_described :
    ¬ IsJson (describedText "$ref") ∧ ¬ IsJson (mend (describedText "$ref")) ∧
      ∃ fault, parse (describedText "$ref") = .error (.invalidJson fault) := by
  have hmalformed : ¬ IsJson (describedText "$ref") := by decide +kernel
  have hmend : ¬ IsJson (mend (describedText "$ref")) := by decide +kernel
  obtain ⟨fault, -, hparse⟩ := (parse_of_not_isJson hmalformed).1 hmend
  exact ⟨hmalformed, hmend, fault.message, hparse⟩

/-- A dollar sign cannot be escaped, but an `r` can. -/
theorem parse_escapedReference :
    ¬ IsJson (describedText "\"\\$ref\"") ∧
      (parse (describedText "\"\\$ref\"")).toOption.map
        (fun document => (document.declaration.apis.getD []).map (·.description)) =
          some [some "\ref"] := by
  decide +kernel

end Document

end Stencil
