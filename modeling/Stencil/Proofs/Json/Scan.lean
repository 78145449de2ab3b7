import Mathlib.Data.List.Infix
import Mathlib.Tactic.SplitIfs
import Stencil.Proofs.Json.Growth

/-!
# Steps of the scanner

What a character leads to inside a token does not depend on where the token stands. A step puts out
tokens that pass and goes on, or it ends with a fault; so the tokens of a text without a fault are
those that it puts out, up to the end of the text.

## Main definitions

* `Progress.Opens`, `Progress.Extends`, `Progress.Decodes`: what the first character of a token, a
  character in a numeral and four hexadecimal digits lead to
* `Progress.Proper`, `Step.Proper`: what is read of a token, and what a step leads to
* `Token.Whole`: tokens that pass up to the end of the text

## Main results

* `Progress.step_proper`: what one character does
* `Token.whole_of_clean`: the tokens of a text without a fault
* `IsJson.whole_scan`: the tokens of a JSON text
-/

namespace Stencil.Json

/-- What may be missing of a word: `null`, `true` or `false` without some of the first letters. -/
def wordRests : List (List Char) :=
  [['u', 'l', 'l'], ['r', 'u', 'e'], ['a', 'l', 's', 'e']].flatMap List.tails

/-- What can be read of a token. -/
def Progress.Proper : Progress → Prop
  | .word _ _ rest => rest ∈ wordRests
  | _ => True

/-- What a step can lead to: tokens that pass and more to read, or a fault. -/
def Step.Proper : Step → Prop
  | .more tokens progress => (∀ t ∈ tokens, t.lexeme.Passes) ∧ progress.Proper
  | .stop tokens => ¬ Token.Clean tokens

namespace Token

theorem not_clean_broken (start : Place) (isText : Bool) (reason : Reason) (place : Place) :
    ¬ Clean [broken start isText reason place] := by
  rintro (hfinish | ⟨hpasses, -⟩)
  · cases hfinish
  · exact hpasses

theorem not_clean_cons {t : Token} (ht : t.lexeme.Passes) {rest : List Token}
    (hrest : ¬ Clean rest) : ¬ Clean (t :: rest) := by
  rintro (hfinish | ⟨-, hclean⟩)
  · rw [hfinish] at ht
    exact ht
  · exact hrest hclean

theorem clean_of_clean_append {tokens rest : List Token} (htokens : ∀ t ∈ tokens, t.lexeme.Passes)
    (h : Clean (tokens ++ rest)) : Clean rest := by
  induction tokens with
  | nil => exact h
  | cons t tokens ih =>
    obtain ⟨ht, htokens⟩ := List.forall_mem_cons.mp htokens
    rcases h with hfinish | ⟨-, hrest⟩
    · rw [hfinish] at ht
      exact ht.elim
    · exact ih htokens hrest

end Token

namespace Progress

/-! ## First characters -/

/-- What the first character of a token leads to, wherever it stands. No token starts with a
backslash. -/
inductive Opens (c : Char) : Prop
  | stray : (∀ place, begin place c = .stop [⟨.stray, place, place⟩]) → Opens c
  | blank : c ≠ '\\' → (∀ place, begin place c = .more [] .between) → Opens c
  | single (lexeme : Lexeme) : c ≠ '\\' → lexeme.Passes →
    (∀ place, begin place c = .more [⟨lexeme, place, place.after c⟩] .between) → Opens c
  | numeral (part : NumeralPart) (read : Numeral) : c ≠ '\\' →
    (∀ place, begin place c = .more [] (.numeral place part read)) → Opens c
  | word (value : Scalar) (rest : List Char) : c ≠ '\\' → rest ∈ wordRests →
    (∀ place, begin place c = .more [] (.word place value rest)) → Opens c
  | text : c ≠ '\\' → (∀ place, begin place c = .more [] (.text place [])) → Opens c

theorem opens (c : Char) : Opens c := by
  -- Blanks and digits come first, then each mark on its own; nothing starts with what is left.
  by_cases hspace : isSpace c = true
  · refine .blank ?_ fun place => by simp [begin, hspace]
    rintro rfl
    exact absurd hspace (by decide)
  by_cases hdigit : c.isDigit = true
  · refine .numeral (if c = '0' then .afterZero else .whole) { whole := [c] } ?_
      fun place => by simp [begin, hspace, hdigit]
    rintro rfl
    exact absurd hdigit (by decide)
  by_cases hmarks : c ∈ ['\x7b', '\x7d', '[', ']', ':', ',', '"', '-', 'n', 't', 'f']
  · simp only [List.mem_cons, List.not_mem_nil, or_false] at hmarks
    rcases hmarks with rfl | rfl | rfl | rfl | rfl | rfl | rfl | rfl | rfl | rfl | rfl
    · exact .single .beginObject (by decide) trivial fun _ => rfl
    · exact .single .endObject (by decide) trivial fun _ => rfl
    · exact .single .beginList (by decide) trivial fun _ => rfl
    · exact .single .endList (by decide) trivial fun _ => rfl
    · exact .single .colon (by decide) trivial fun _ => rfl
    · exact .single .comma (by decide) trivial fun _ => rfl
    · exact .text (by decide) fun _ => rfl
    · exact .numeral .first { negative := true } (by decide) fun _ => rfl
    · exact .word .null ['u', 'l', 'l'] (by decide) (by decide) fun _ => rfl
    · exact .word (.boolean true) ['r', 'u', 'e'] (by decide) (by decide) fun _ => rfl
    · exact .word (.boolean false) ['a', 'l', 's', 'e'] (by decide) (by decide) fun _ => rfl
  · simp only [List.mem_cons, List.not_mem_nil, or_false, not_or] at hmarks
    obtain ⟨h₁, h₂, h₃, h₄, h₅, h₆, h₇, h₈, h₉, h₁₀, h₁₁⟩ := hmarks
    exact .stray fun place => by simp [begin, *]

/-! ## Numerals -/

/-- What a character leads to inside a numeral, wherever they stand. -/
inductive Extends (part : NumeralPart) (read : Numeral) (c : Char) : Prop
  | broken : (∀ start place, ∃ reason place',
      stepNumeral start part read place c = .stop [.broken start false reason place']) →
    Extends part read c
  | further (part' : NumeralPart) (read' : Numeral) : c ≠ '\\' →
    (∀ start place,
      stepNumeral start part read place c = .more [] (.numeral start part' read')) →
    Extends part read c
  | ends : (∀ start place, stepNumeral start part read place c = endNumeral start read place c) →
    Extends part read c

theorem ne_backslash_of_isDigit {c : Char} (h : c.isDigit = true) : c ≠ '\\' := by
  rintro rfl
  exact absurd h (by decide)

theorem extends_of_eq_exponentDigit {part : NumeralPart} {negative : Bool} {read : Numeral}
    {c : Char} (hdigit : c.isDigit = true)
    (h : ∀ start place, stepNumeral start part read place c =
      exponentDigit start negative read place c) : Extends part read c := by
  unfold exponentDigit at h
  dsimp only at h
  split at h
  · exact .broken fun start place => ⟨_, _, h start place⟩
  · exact .further _ _ (ne_backslash_of_isDigit hdigit) h

/-- A digit goes on with a numeral, unless it stands behind a zero or makes the numeral too
large. -/
theorem extends_of_isDigit (part : NumeralPart) (read : Numeral) {c : Char}
    (hdigit : c.isDigit = true) : Extends part read c := by
  have hne := ne_backslash_of_isDigit hdigit
  cases part with
  | first =>
    by_cases hzero : c = '0'
    · refine .further .afterZero { read with whole := [c] } hne fun _ _ => ?_
      simp only [stepNumeral, if_pos hzero]
    · refine .further .whole { read with whole := [c] } hne fun _ _ => ?_
      simp only [stepNumeral, if_neg hzero, if_pos hdigit]
  | afterZero =>
    refine .broken fun _ place => ⟨.badNumeral, place.within c 1, ?_⟩
    simp only [stepNumeral, if_pos hdigit]
  | whole =>
    refine .further .whole { read with whole := read.whole ++ [c] } hne fun _ _ => ?_
    simp only [stepNumeral, if_pos hdigit]
  | firstFraction | fraction =>
    refine .further .fraction { read with fraction := some (read.fraction.getD [] ++ [c]) } hne
      fun _ _ => ?_
    simp only [stepNumeral, if_pos hdigit]
  | exponentSign =>
    have hplus : c ≠ '+' := by rintro rfl; exact absurd hdigit (by decide)
    have hminus : c ≠ '-' := by rintro rfl; exact absurd hdigit (by decide)
    refine @extends_of_eq_exponentDigit _ false _ _ hdigit fun _ _ => ?_
    simp only [stepNumeral, if_neg hplus, if_neg hminus, if_pos hdigit]
  | firstExponent negative | exponent negative =>
    refine @extends_of_eq_exponentDigit _ negative _ _ hdigit fun _ _ => ?_
    simp only [stepNumeral, if_pos hdigit]

/-- The end of the digits before the point. -/
theorem extends_of_eq_whole {part : NumeralPart} {read : Numeral} {c : Char}
    (h : ∀ start place, stepNumeral start part read place c =
      if c = '.' then .more [] (.numeral start .firstFraction { read with fraction := some [] })
      else if c = 'e' ∨ c = 'E' then .more [] (.numeral start .exponentSign read)
      else endNumeral start read place c) : Extends part read c := by
  split at h
  · subst c
    exact .further _ _ (by decide) h
  split at h
  · rename_i hexponent
    refine .further _ _ ?_ h
    rintro rfl
    exact absurd hexponent (by decide)
  · exact .ends h

theorem extends_of_not_isDigit (part : NumeralPart) (read : Numeral) {c : Char}
    (hdigit : ¬ c.isDigit = true) : Extends part read c := by
  have hzero : c ≠ '0' := by
    rintro rfl
    exact hdigit (by decide)
  cases part with
  | first =>
    refine .broken fun _ place => ⟨.badNumeral, place.within c 1, ?_⟩
    simp only [stepNumeral, if_neg hzero, if_neg hdigit]
  | firstFraction | firstExponent =>
    refine .broken fun _ place => ⟨.badNumeral, place.within c 1, ?_⟩
    simp only [stepNumeral, if_neg hdigit]
  | afterZero | whole =>
    refine extends_of_eq_whole fun _ _ => ?_
    simp only [stepNumeral, if_neg hdigit]
  | fraction =>
    by_cases hexponent : c = 'e' ∨ c = 'E'
    · refine .further .exponentSign read ?_ fun _ _ => ?_
      · rintro rfl
        exact absurd hexponent (by decide)
      · simp only [stepNumeral, if_neg hdigit, if_pos hexponent]
    · refine .ends fun _ _ => ?_
      simp only [stepNumeral, if_neg hdigit, if_neg hexponent]
  | exponentSign =>
    by_cases hplus : c = '+'
    · refine .further (.firstExponent false) read (by simp [hplus]) fun _ _ => ?_
      simp only [stepNumeral, if_pos hplus]
    by_cases hminus : c = '-'
    · refine .further (.firstExponent true) read (by simp [hminus]) fun _ _ => ?_
      simp only [stepNumeral, if_neg hplus, if_pos hminus]
    · refine .broken fun _ place => ⟨.badNumeral, place.within c 1, ?_⟩
      simp only [stepNumeral, if_neg hplus, if_neg hminus, if_neg hdigit]
  | exponent negative =>
    refine .ends fun _ _ => ?_
    simp only [stepNumeral, if_neg hdigit]

theorem extends_cases (part : NumeralPart) (read : Numeral) (c : Char) : Extends part read c := by
  by_cases hdigit : c.isDigit = true
  · exact extends_of_isDigit part read hdigit
  · exact extends_of_not_isDigit part read hdigit

/-! ## Hexadecimal digits -/

/-- What four hexadecimal digits lead to, wherever they stand. -/
inductive Decodes (high value : Option Nat) : Prop
  | broken (reason : Reason) : (∀ start read place,
      endHex start read high value place = .stop [.broken start true reason place]) →
    Decodes high value
  | text (c : Char) : value ≠ none → (∀ start read place,
      endHex start read high value place = .more [] (.text start (c :: read))) → Decodes high value
  | pair (n : Nat) : value ≠ none → (∀ start read place,
      endHex start read high value place = .more [] (.pair start read n)) → Decodes high value

theorem decodes (high value : Option Nat) : Decodes high value := by
  cases value with
  | none => exact .broken .badEscape fun _ _ _ => rfl
  | some n =>
    cases high with
    | none =>
      by_cases hlow : 0xDC00 ≤ n ∧ n ≤ 0xDFFF
      · exact .broken .badPair fun _ _ _ => by simp only [endHex, if_pos hlow]
      by_cases hhigh : 0xD800 ≤ n ∧ n ≤ 0xDBFF
      · exact .pair n nofun fun _ _ _ => by simp only [endHex, if_neg hlow, if_pos hhigh]
      · exact .text (Char.ofNat n) nofun fun _ _ _ => by
          simp only [endHex, if_neg hlow, if_neg hhigh]
    | some high =>
      by_cases hlow : 0xDC00 ≤ n ∧ n ≤ 0xDFFF
      · refine .text (Char.ofNat ((high - 0xD800) * 0x400 + (n - 0xDC00) + 0x10000)) nofun
          fun _ _ _ => ?_
        simp only [endHex, if_pos hlow]
      · exact .broken .badPair fun _ _ _ => by simp only [endHex, if_neg hlow]

/-! ## Steps -/

theorem begin_proper (place : Place) (c : Char) : (begin place c).Proper := by
  cases opens c with
  | stray h =>
    rw [h]
    rintro (hfinish | ⟨hpasses, -⟩)
    · cases hfinish
    · exact hpasses
  | blank _ h | numeral _ _ _ h | text _ h =>
    rw [h]
    exact ⟨List.forall_mem_nil _, trivial⟩
  | single lexeme _ hlexeme h =>
    rw [h]
    exact ⟨List.forall_mem_singleton.mpr hlexeme, trivial⟩
  | word _ _ _ hrest h =>
    rw [h]
    exact ⟨List.forall_mem_nil _, hrest⟩

theorem endNumeral_proper (start : Place) (read : Numeral) (place : Place) (c : Char) :
    (endNumeral start read place c).Proper := by
  have hbegin := begin_proper place c
  unfold endNumeral
  cases read.value? with
  | none => exact Token.not_clean_broken start false .numberTooLarge place
  | some value =>
    -- The numeral is put out in front of what the character begins.
    cases hstep : begin place c with
    | more tokens progress =>
      rw [hstep] at hbegin
      exact ⟨List.forall_mem_cons.mpr ⟨trivial, hbegin.1⟩, hbegin.2⟩
    | stop tokens =>
      rw [hstep] at hbegin
      exact Token.not_clean_cons (by trivial) hbegin

theorem stepNumeral_proper (start : Place) (part : NumeralPart) (read : Numeral) (place : Place)
    (c : Char) : (stepNumeral start part read place c).Proper := by
  cases extends_cases part read c with
  | broken h =>
    obtain ⟨reason, place', h⟩ := h start place
    rw [h]
    exact Token.not_clean_broken start false reason place'
  | further part' read' _ h =>
    rw [h]
    exact ⟨List.forall_mem_nil _, trivial⟩
  | ends h =>
    rw [h]
    exact endNumeral_proper start read place c

theorem endHex_proper (start : Place) (read : List Char) (high value : Option Nat)
    (place : Place) : (endHex start read high value place).Proper := by
  cases decodes high value with
  | broken reason h =>
    rw [h]
    exact Token.not_clean_broken start true reason place
  | text _ _ h | pair _ _ h =>
    rw [h]
    exact ⟨List.forall_mem_nil _, trivial⟩

theorem tail_mem_wordRests : ∀ rest ∈ wordRests, rest.tail ∈ wordRests := by decide

/-- **One character** puts out tokens that pass, or it is a fault. -/
theorem step_proper {progress : Progress} (h : progress.Proper) (place : Place) (c : Char) :
    (step progress place c).Proper := by
  cases progress with
  | between => exact begin_proper place c
  | word start value rest =>
    cases rest with
    | nil => exact begin_proper place c
    | cons expected rest =>
      unfold step
      dsimp only
      split_ifs
      · exact Token.not_clean_broken start false .badLiteral _
      · exact ⟨List.forall_mem_singleton.mpr trivial, trivial⟩
      · exact ⟨List.forall_mem_nil _, tail_mem_wordRests _ h⟩
  | numeral start part read => exact stepNumeral_proper start part read place c
  | text start read =>
    unfold step
    dsimp only
    split_ifs
    · exact ⟨List.forall_mem_singleton.mpr trivial, trivial⟩
    · exact ⟨List.forall_mem_nil _, trivial⟩
    · exact Token.not_clean_broken start true .controlCharacter _
    · exact ⟨List.forall_mem_nil _, trivial⟩
  | escape start read =>
    unfold step
    dsimp only
    split_ifs
    · exact ⟨List.forall_mem_nil _, trivial⟩
    · cases escapedChar? c with
      | some escaped => exact ⟨List.forall_mem_nil _, trivial⟩
      | none => exact Token.not_clean_broken start true .badEscape _
  | hex start read high missing value =>
    unfold step
    dsimp only
    split_ifs
    · exact ⟨List.forall_mem_nil _, trivial⟩
    · exact endHex_proper start read high _ _
  | pair start read high | pairEscape start read high =>
    unfold step
    dsimp only
    split_ifs
    · exact ⟨List.forall_mem_nil _, trivial⟩
    · exact Token.not_clean_broken start true .halfPair _

end Progress

namespace Token

open Progress

/-- Tokens that pass, and the end of the text behind them. -/
inductive Whole : List Token → Prop
  | finish {t} : t.lexeme = .finish → Whole [t]
  | cons {t rest} : t.lexeme.Passes → Whole rest → Whole (t :: rest)

theorem Whole.append {tokens rest : List Token} (htokens : ∀ t ∈ tokens, t.lexeme.Passes)
    (h : Whole rest) : Whole (tokens ++ rest) := by
  induction tokens with
  | nil => exact h
  | cons t tokens ih =>
    obtain ⟨ht, htokens⟩ := List.forall_mem_cons.mp htokens
    exact .cons ht (ih htokens)

theorem Whole.passes_or_finish {tokens : List Token} (h : Whole tokens) :
    ∀ t ∈ tokens, t.lexeme.Passes ∨ t.lexeme = .finish := by
  induction h with
  | finish hfinish => exact List.forall_mem_singleton.mpr (Or.inr hfinish)
  | cons ht _ ih => exact List.forall_mem_cons.mpr ⟨Or.inl ht, ih⟩

theorem whole_finish {progress : Progress} {place : Place} (h : Clean (finish progress place)) :
    Whole (finish progress place) := by
  cases progress with
  | between => exact .finish rfl
  | numeral start part read =>
    dsimp only [finish, numeralToken] at h ⊢
    split_ifs at h ⊢
    · cases hvalue : read.value? with
      | none =>
        rw [hvalue] at h
        rcases h with hfinish | ⟨hpasses, -⟩
        · cases hfinish
        · exact hpasses.elim
      | some value =>
        refine .cons ?_ (.finish rfl)
        trivial
    · exact absurd h (not_clean_broken start false .endInValue place)
  | word start _ _ => exact absurd h (not_clean_broken start false .endInValue place)
  | text start _ | escape start _ | hex start _ _ _ _ | pair start _ _ | pairEscape start _ _ =>
    exact absurd h (not_clean_broken start true .endInText place)

/-- **The tokens of a text without a fault** pass up to the last one, which is the end of the
text. -/
theorem whole_of_clean {progress : Progress} (hprogress : progress.Proper) {place : Place}
    {cs : List Char} (h : Clean (scanFrom progress place cs)) :
    Whole (scanFrom progress place cs) := by
  induction cs generalizing progress place with
  | nil => exact whole_finish h
  | cons c cs ih =>
    have hstep := step_proper hprogress place c
    rw [scanFrom] at h ⊢
    cases hnext : step progress place c with
    | more tokens next =>
      rw [hnext] at hstep h
      exact .append hstep.1 (ih hstep.2 (clean_of_clean_append hstep.1 h))
    | stop tokens =>
      rw [hnext] at hstep h
      exact absurd h hstep

theorem forall_of_clean {progress : Progress} (hprogress : progress.Proper) {place : Place}
    {cs : List Char} (h : Clean (scanFrom progress place cs)) :
    ∀ t ∈ scanFrom progress place cs, t.lexeme.Passes ∨ t.lexeme = .finish :=
  (whole_of_clean hprogress h).passes_or_finish

/-- Four hexadecimal digits with a bad one among them are a fault. -/
theorem scanFrom_hex_none (start : Place) (read : List Char) (high : Option Nat) (missing : Nat)
    (place : Place) (cs : List Char) : ∃ reason place',
      scanFrom (.hex start read high missing none) place cs =
        [broken start true reason place'] := by
  induction cs generalizing missing place with
  | nil => exact ⟨.endInText, place, rfl⟩
  | cons c cs ih =>
    rw [scanFrom, step]
    dsimp only [bind, Option.bind]
    split_ifs
    · exact ih (missing - c.utf8Size) (place.after c)
    · exact ⟨.badEscape, _, rfl⟩

end Token

/-- The tokens of a JSON text have no fault. -/
theorem IsJson.clean {text : String} (h : IsJson text) : Token.Clean (Token.scan text) :=
  TextTree.clean_of_sound (.value (List.forall_mem_nil _)) (isJson_iff.mp h)

/-- The tokens of a JSON text pass up to the end of the text. -/
theorem IsJson.whole_scan {text : String} (h : IsJson text) : Token.Whole (Token.scan text) :=
  @Token.whole_of_clean .between trivial _ _ h.clean

end Stencil.Json
