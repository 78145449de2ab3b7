import Stencil.Proofs.Declaration.PlainColumns
import Stencil.Proofs.Declaration.PlainTokens

/-!
# References that are written out

A `$ref` in a text literal is taken for a reference if its characters are written out, with none of
them escaped. While a text is scanned it is noted where in its literals such references stand; the
tokens of the text with plain references are then the tokens of the text with the dollar signs at
these positions left out, each as many columns further to the left as there are references in front
of it on its line. This holds of faulty texts too, if no `$ref` breaks off what is read of an escape
or of a word.

## Main definitions

* `Token.scanReferences text`: the tokens of a text, each with the positions of the references that
  are written out in it
* `withoutAt positions read`: what is read of a text literal, without the characters at some
  positions
* `Progress.Unbroken`: no `$ref` that comes next breaks off an escape or a word

## Main results

* `Token.scan_plain`: the tokens of the text with plain references
* `Token.unbroken_of_clean`: nothing is broken off in a text without a fault
-/

namespace Stencil

/-- What is read of a text literal, the last character first, without the characters at the
positions. -/
def withoutAt (positions : List Nat) : List Char → List Char
  | [] => []
  | c :: earlier =>
    if earlier.length ∈ positions then withoutAt positions earlier
    else c :: withoutAt positions earlier

section Positions

variable {positions : List Nat} {read : List Char}

/-- A character behind all positions is kept. -/
theorem withoutAt_cons (h : ∀ n ∈ positions, n < read.length) (c : Char) :
    withoutAt positions (c :: read) = c :: withoutAt positions read :=
  if_neg fun hmem => Nat.lt_irrefl _ (h _ hmem)

/-- A position behind what is read does not count. -/
theorem withoutAt_cons_position {n : Nat} (h : read.length ≤ n) :
    withoutAt (n :: positions) read = withoutAt positions read := by
  induction read with
  | nil => rfl
  | cons c earlier ih =>
    have hlt : earlier.length < n := h
    have hmem : earlier.length ∈ n :: positions ↔ earlier.length ∈ positions := by
      rw [List.mem_cons]
      exact or_iff_right hlt.ne
    simp only [withoutAt, hmem, ih hlt.le]

/-- A reference is left without its dollar sign. -/
theorem withoutAt_marked (h : ∀ n ∈ positions, n < read.length) :
    withoutAt (read.length :: positions) ((marked 1).reverse ++ read) =
      (marked 0).reverse ++ withoutAt positions read := by
  -- Whatever comes behind the dollar sign is behind all positions.
  have hword : ∀ word : List Char, withoutAt (read.length :: positions) (word ++ '$' :: read) =
      word ++ withoutAt positions read := by
    intro word
    induction word with
    | nil =>
      rw [List.nil_append, withoutAt, if_pos List.mem_cons_self,
        withoutAt_cons_position (Nat.le_refl _), List.nil_append]
    | cons c word ih =>
      have hbehind : ∀ n ∈ read.length :: positions, n < (word ++ '$' :: read).length := by
        intro n hn
        have hle : n ≤ read.length := (List.mem_cons.mp hn).elim Nat.le_of_eq fun hn => (h n hn).le
        rw [List.length_append, List.length_cons]
        omega
      rw [List.cons_append, withoutAt_cons hbehind, ih, List.cons_append]
  exact hword ['f', 'e', 'r']

end Positions

namespace Json

/-! ## Noting references -/

namespace Progress

/-- The positions of references in what is read of a text literal, with one more if a reference comes
next. -/
def noted (positions : List Nat) (cs : List Char) : Progress → List Nat
  | .text _ read => if marked 1 <+: cs then read.length :: positions else positions
  | _ => positions

/-- The positions that are kept while a token goes on. -/
def kept (positions : List Nat) : Progress → List Nat
  | .between => []
  | _ => positions

end Progress

namespace Token

/-- The tokens of the rest of a text with the positions of the references in them. -/
def scanReferencesFrom (progress : Progress) (positions : List Nat) (place : Place) :
    List Char → List (Token × List Nat)
  | [] => (progress.finish place).map (·, positions)
  | c :: rest =>
    let positions := progress.noted positions (c :: rest)
    match progress.step place c with
    | .more tokens next =>
      tokens.map (·, positions) ++
        scanReferencesFrom next (next.kept positions) (place.after c) rest
    | .stop tokens => tokens.map (·, positions)

/-- The tokens of a text, each with the positions of the references that are written out in it, the
last one first. -/
def scanReferences (text : String) : List (Token × List Nat) :=
  scanReferencesFrom .between [] {} text.toList

theorem map_fst_scanReferencesFrom (progress : Progress) (positions : List Nat) (place : Place)
    (cs : List Char) :
    (scanReferencesFrom progress positions place cs).map Prod.fst = scanFrom progress place cs := by
  induction cs generalizing progress positions place with
  | nil => simp [scanReferencesFrom, scanFrom, Function.comp_def]
  | cons c rest ih =>
    rw [scanReferencesFrom, scanFrom]
    cases progress.step place c with
    | more tokens next => simp [ih, Function.comp_def]
    | stop tokens => simp [Function.comp_def]

theorem map_fst_scanReferences (text : String) :
    (scanReferences text).map Prod.fst = scan text :=
  map_fst_scanReferencesFrom _ _ _ _

end Token

/-! ## References that break nothing off -/

namespace Progress

/-- What is read of a token would be broken off by a `$ref` and not by a `ref`, or at another place:
the backslash of an escape, the `u` of one, or the first letter of `true`. -/
def Fragile : Progress → Prop
  | .escape _ _ => True
  | .hex _ _ _ missing _ => 4 ≤ missing
  | .word _ _ rest => rest.head? = some 'r'
  | _ => False

instance : DecidablePred Fragile := fun progress =>
  match progress with
  | .escape _ _ => isTrue trivial
  | .hex _ _ _ missing _ => inferInstanceAs (Decidable (4 ≤ missing))
  | .word _ _ rest => inferInstanceAs (Decidable (rest.head? = some 'r'))
  | .between | .numeral _ _ _ | .text _ _ | .pair _ _ _ | .pairEscape _ _ _ => isFalse id

/-- No `$ref` that comes next breaks off an escape or a word. -/
def Unbroken (progress : Progress) (place : Place) : List Char → Prop
  | [] => True
  | c :: rest =>
    (progress.Fragile → ¬ marked 1 <+: c :: rest) ∧
      match progress.step place c with
      | .more _ next => next.Unbroken (place.after c) rest
      | .stop _ => True

instance decidableUnbroken (progress : Progress) (place : Place) :
    (cs : List Char) → Decidable (progress.Unbroken place cs)
  | [] => isTrue trivial
  | c :: rest =>
    have : Decidable (match progress.step place c with
        | .more _ next => next.Unbroken (place.after c) rest
        | .stop _ => True) :=
      match progress.step place c with
      | .more _ next => decidableUnbroken next (place.after c) rest
      | .stop _ => isTrue trivial
    inferInstanceAs (Decidable (_ ∧ _))

theorem Unbroken.unescaped {progress : Progress} {place : Place} {cs : List Char}
    (h : progress.Unbroken place cs) : progress.Unescaped place cs := by
  induction cs generalizing progress place with
  | nil => trivial
  | cons c rest ih =>
    refine ⟨?_, ?_⟩
    · rintro ⟨start, read, rfl⟩
      exact h.1 trivial
    · have hrest := h.2
      cases hstep : progress.step place c with
      | more tokens next =>
        rw [hstep] at hrest
        exact ih hrest
      | stop tokens => trivial

end Progress

namespace Token

open Progress

/-- In a text without a fault no `$ref` breaks anything off. -/
theorem unbroken_of_clean {progress : Progress} (hproper : progress.Proper) {place : Place}
    {cs : List Char} (h : Clean (scanFrom progress place cs)) : progress.Unbroken place cs := by
  induction cs generalizing progress place with
  | nil => trivial
  | cons c rest ih =>
    refine ⟨?_, ?_⟩
    · rintro hfragile ⟨after, hafter⟩
      rw [← hafter] at h
      cases progress with
      | escape start read => exact not_clean_broken start true .badEscape (place.within '$' 1) h
      | hex start read high missing value =>
        obtain ⟨reason, place', hbroken⟩ := @scanFrom_hex_of_eq_none '$' rfl start read high missing
          value place ('r' :: 'e' :: 'f' :: after)
        exact not_clean_broken start true reason place' (hbroken ▸ h)
      | word start value word =>
        cases word with
        | nil => cases hfragile
        | cons expected word =>
          obtain rfl := Option.some.inj hfragile
          exact not_clean_broken start false .badLiteral (place.within '$' 1) h
      | between | numeral | text | pair | pairEscape => exact hfragile.elim
    · have hstep := step_proper hproper place c
      rw [scanFrom] at h
      cases hnext : step progress place c with
      | more tokens next =>
        rw [hnext] at hstep h
        exact ih hstep.2 (clean_of_clean_append hstep.1 h)
      | stop tokens => trivial

end Token

/-! ## Side by side -/

namespace Token

open Progress

variable {cs rest : List Char} {place place' : Place} {progress : Progress} {r : List Char → List Char}

/-- A step that ends the scan of both texts. -/
theorem scan_stop {c d : Char} {cs ds : List Char} {tokens : List Token} {φ : Place → Place}
    {positions : List Nat} (hnoted : progress.noted positions (c :: cs) = positions)
    (hleft : step progress place c = .stop tokens)
    (hright : step (progress.recast φ r) place' d =
      .stop (tokens.map (Token.recast φ (recastText r)))) (hglances : ∀ t ∈ tokens, t.Glances φ) :
    ∃ tokens : List Token,
      scanReferencesFrom progress positions place (c :: cs) = tokens.map (·, positions) ∧
        scanFrom (progress.recast φ r) place' (d :: ds) =
          tokens.map (Token.recast φ (recastText r)) ∧
        ∀ t ∈ tokens, t.Glances φ := by
  refine ⟨tokens, ?_, ?_, hglances⟩
  · rw [scanReferencesFrom, hnoted, hleft]
  · rw [scanFrom, hright]

/-- A foreign character ends a numeral or breaks it off, whichever character it is. -/
theorem stepNumeral_recast_of_foreign {φ : Place → Place} {c d : Char} (hc : ¬ c.isDigit = true)
    (hcMarks : c ∉ ['0', '.', 'e', 'E', '+', '-']) (hd : ¬ d.isDigit = true)
    (hdMarks : d ∉ ['0', '.', 'e', 'E', '+', '-']) (hhere : φ place = place')
    (hwithin : φ (place.within c 1) = place'.within d 1)
    (hbegin : begin place c = .stop [⟨.stray, place, place⟩])
    (hbegin' : begin place' d = .stop [⟨.stray, place', place'⟩]) (start : Place)
    (part : NumeralPart) (read : Numeral) :
    ∃ tokens : List Token, stepNumeral start part read place c = .stop tokens ∧
      stepNumeral (φ start) part read place' d =
        .stop (tokens.map (Token.recast φ (recastText r))) := by
  rw [stepNumeral_of_foreign hc hcMarks, stepNumeral_of_foreign hd hdMarks]
  split_ifs
  · unfold endNumeral
    rw [hbegin, hbegin', ← hhere]
    cases read.value? with
    | none => exact ⟨_, rfl, rfl⟩
    | some value => exact ⟨_, rfl, rfl⟩
  · refine ⟨_, rfl, ?_⟩
    rw [← hwithin]
    rfl

/-- The characters of a reference are of one byte each and on one line. -/
theorem ascii_of_mem_marked {n : Nat} {c : Char} (h : c ∈ marked n) :
    c.utf8Size = 1 ∧ c ≠ '\n' := by
  rcases List.mem_append.mp h with h | h
  · obtain rfl := List.eq_of_mem_replicate h
    decide
  · simp only [List.mem_cons, List.not_mem_nil, or_false] at h
    rcases h with rfl | rfl | rfl <;> decide

/-- A reference starts with no hexadecimal digit. -/
theorem hexValue?_head_marked (n : Nat) : ∀ c ∈ (marked n).head?, hexValue? c = none := by
  cases n with
  | zero =>
    rintro c ⟨⟩
    rfl
  | succ n =>
    rintro c ⟨⟩
    rfl

/-- What stands in place of hexadecimal digits is a fault behind as many bytes as are missing. -/
theorem scan_hex {start : Place} {read : List Char} {high value : Option Nat} {missing : Nat}
    {word : List Char} (hword : ∀ c ∈ word, c.utf8Size = 1 ∧ c ≠ '\n')
    (hvalue : value = none ∨ ∀ c ∈ word.head?, hexValue? c = none) (hmissing : missing ≤ word.length)
    (hne : word ≠ []) (positions : List Nat) (place : Place) (rest : List Char) :
    scanReferencesFrom (.hex start read high missing value) positions place (word ++ rest) =
      [(broken start true .badEscape ⟨place.line, place.column + missing⟩, positions)] := by
  induction word generalizing missing value place with
  | nil => exact absurd rfl hne
  | cons c word ih =>
    obtain ⟨⟨hsize, hbreak⟩, hword⟩ := List.forall_mem_cons.mp hword
    have hnext : (do return (← value) * 16 + (← hexValue? c)) = none := by
      rcases hvalue with rfl | hc
      · rfl
      · rw [hc c rfl]
        cases value <;> rfl
    rw [List.cons_append, scanReferencesFrom]
    simp only [step, hnext, hsize]
    by_cases hmore : 1 < missing
    · have hplace : (⟨(place.after c).line, (place.after c).column + (missing - 1)⟩ : Place) =
          ⟨place.line, place.column + missing⟩ := by
        rw [Place.after, if_neg hbreak, hsize, Place.mk.injEq]
        exact ⟨rfl, by dsimp only; omega⟩
      rw [List.length_cons] at hmissing
      have hsome : word ≠ [] := by
        rintro rfl
        exact absurd hmissing (by simp; omega)
      have hrest := ih hword (Or.inl rfl) (by omega : missing - 1 ≤ word.length) hsome
        (place.after c)
      rw [if_pos hmore]
      rw [hplace] at hrest
      exact hrest
    · have hmin : min missing 1 = missing := by omega
      rw [if_neg hmore, Place.within, if_neg hbreak, hsize, hmin]
      rfl

/-- **A reference outside of text literals** ends the scan of both texts with a fault at the same
place. -/
theorem scan_cut (h : Passed cs place place' (marked 1 ++ rest)) (hproper : progress.Proper)
    (hfragile : ¬ progress.Fragile) (htext : ∀ start read, progress ≠ .text start read)
    (hglances : progress.Glances (plainPlace cs)) (positions : List Nat) (more : List Char) :
    ∃ tokens : List Token, scanReferencesFrom progress positions place (marked 1 ++ rest) =
        tokens.map (·, positions) ∧
      scanFrom (progress.recast (plainPlace cs) r) place' (marked 0 ++ more) =
        tokens.map (Token.recast (plainPlace cs) (recastText r)) ∧
      ∀ t ∈ tokens, t.Glances (plainPlace cs) := by
  have hhere : plainPlace cs place = place' := h.here
  have hwithin : plainPlace cs (place.within '$' 1) = place'.within 'r' 1 :=
    h.plainPlace_eq (by decide : 1 < 4)
  -- A token that could start here does not.
  have hstray : ∃ tokens : List Token,
      scanReferencesFrom .between positions place (marked 1 ++ rest) = tokens.map (·, positions) ∧
        scanFrom .between place' (marked 0 ++ more) =
          tokens.map (Token.recast (plainPlace cs) (recastText r)) ∧
        ∀ t ∈ tokens, t.Glances (plainPlace cs) := by
    refine ⟨[⟨.stray, place, place⟩], rfl, ?_, List.forall_mem_singleton.mpr h.next⟩
    rw [← hhere]
    rfl
  cases progress with
  | between => exact hstray
  | word start value word =>
    rcases wordRests_not_reference word hproper with rfl | ⟨hdollar, -⟩
    · exact hstray
    · cases word with
      | nil => exact hstray
      | cons expected word =>
        have hleft : '$' ≠ expected := fun heq => hdollar (congrArg some heq.symm)
        have hright : 'r' ≠ expected := fun heq => hfragile (congrArg some heq.symm)
        refine @scan_stop _ _ _ _ _ _ _ _ [broken start false .badLiteral (place.within '$' 1)] _
          positions rfl ?_ ?_ (List.forall_mem_singleton.mpr hglances)
        · simp only [step, if_pos hleft]
        · simp only [Progress.recast, step, if_pos hright, ← hwithin]
          rfl
  | numeral start part read =>
    obtain ⟨tokens, hleft, hright⟩ := stepNumeral_recast_of_foreign (c := '$') (d := 'r') (r := r)
      (by decide) (by decide) (by decide) (by decide) hhere hwithin rfl rfl start part read
    have htokens := stepNumeral_glances h.next hglances part read '$'
    rw [hleft] at htokens
    exact scan_stop rfl hleft hright htokens
  | text start read => exact absurd rfl (htext start read)
  | escape start read => exact absurd trivial hfragile
  | hex start read high missing value =>
    have hmissing : missing < 4 := Nat.lt_of_not_le hfragile
    -- The digits that are missing are not there: the fault is found behind as many bytes.
    refine ⟨[broken start true .badEscape ⟨place.line, place.column + missing⟩], ?_, ?_,
      List.forall_mem_singleton.mpr hglances⟩
    · exact scan_hex (fun _ => ascii_of_mem_marked) (Or.inr (hexValue?_head_marked 1)) hmissing.le
        (by decide) positions place rest
    · have hplain : scanReferencesFrom (.hex (plainPlace cs start) (r read) high missing value) []
          place' (marked 0 ++ more) = _ :=
        scan_hex (fun _ => ascii_of_mem_marked) (Or.inr (hexValue?_head_marked 0))
          (Nat.le_of_lt_succ hmissing) (by decide) [] place' more
      rw [Progress.recast, ← map_fst_scanReferencesFrom _ [], hplain, ← h.plainPlace_eq hmissing]
      rfl
  | pair start read high | pairEscape start read high =>
    refine @scan_stop _ _ _ _ _ _ _ _ [broken start true .halfPair (place.within '$' 1)] _
      positions rfl rfl ?_ (List.forall_mem_singleton.mpr hglances)
    simp only [Progress.recast, step, ← hwithin]
    rfl

/-- The token of the text with plain references, for a token of a text with the positions of the
references in it. -/
def plainIn (cs : List Char) (noted : Token × List Nat) : Token :=
  noted.1.recast (plainPlace cs) (recastText (withoutAt noted.2))

theorem map_plainIn (cs : List Char) (positions : List Nat) (tokens : List Token) :
    (tokens.map (·, positions)).map (plainIn cs) =
      tokens.map (Token.recast (plainPlace cs) (recastText (withoutAt positions))) := by
  rw [List.map_map]
  rfl

theorem noted_of_not_prefix (progress : Progress) (positions : List Nat) {cs : List Char}
    (h : ¬ marked 1 <+: cs) : progress.noted positions cs = positions := by
  cases progress with
  | text start read => exact if_neg h
  | between | word | numeral | escape | hex | pair | pairEscape => rfl

theorem scanReferencesFrom_text_marked (start : Place) (read : List Char) (positions : List Nat)
    (place : Place) (rest : List Char) :
    scanReferencesFrom (.text start read) positions place (marked 1 ++ rest) =
      scanReferencesFrom (.text start ((marked 1).reverse ++ read)) (read.length :: positions)
        (place.afterAll (marked 1)) rest := by
  have hstarts : marked 1 <+: '$' :: 'r' :: 'e' :: 'f' :: rest := List.prefix_append (marked 1) rest
  change scanReferencesFrom (.text start read) positions place ('$' :: 'r' :: 'e' :: 'f' :: rest) = _
  rw [scanReferencesFrom, noted, if_pos hstarts]
  rfl

theorem recast_kept (φ : Place → Place) (progress : Progress) (positions : List Nat) :
    progress.recast φ (withoutAt (progress.kept positions)) =
      progress.recast φ (withoutAt positions) := by
  cases progress <;> rfl

theorem lt_of_mem_kept {positions : List Nat} {c : Char} {next : Progress} {tokens : List Token}
    (hpositions : ∀ n ∈ positions, n < progress.read.length)
    (hstep : step progress place c = .more tokens next) :
    ∀ n ∈ next.kept positions, n < next.read.length := by
  rcases eq_between_or_length_le hstep with rfl | hle
  · exact List.forall_mem_nil _
  · cases next with
    | between => exact List.forall_mem_nil _
    | word | numeral | text | escape | hex | pair | pairEscape =>
      exact fun n hn => (hpositions n hn).trans_le hle

/-- **Side by side**: from a place on, the tokens of the text with plain references are those of the
text without the dollar signs of the references in them, as many columns further to the left as
there are references in front of them. -/
theorem scanFrom_plain {positions : List Nat} (h : Passed cs place place' rest)
    (hproper : progress.Proper) (hglances : progress.Glances (plainPlace cs))
    (hpositions : ∀ n ∈ positions, n < progress.read.length)
    (hunbroken : progress.Unbroken place rest) :
    scanFrom (progress.recast (plainPlace cs) (withoutAt positions)) place'
          (plainReferences rest) =
        (scanReferencesFrom progress positions place rest).map (plainIn cs) ∧
      ∀ t ∈ scanFrom progress place rest, t.Glances (plainPlace cs) := by
  -- The induction follows the pass over the text, which takes a whole `$ref` at a time.
  induction rest using induction_on_references generalizing progress positions place place' with
  | nil =>
    refine ⟨?_, finish_glances hglances h.next⟩
    rw [plainReferences, scanFrom, scanReferencesFrom, ← h.here, finish_recast, map_plainIn]
  | reference rest ih =>
    rw [plainReferences_marked]
    by_cases htext : ∃ start read, progress = .text start read
    · -- A text literal goes on, with a reference noted in it.
      obtain ⟨start, read, rfl⟩ := htext
      have hbehind : ∀ n ∈ read.length :: positions,
          n < (Progress.text start ((marked 1).reverse ++ read)).read.length := by
        intro n hn
        have hle : n ≤ read.length :=
          (List.mem_cons.mp hn).elim Nat.le_of_eq fun hn => (hpositions n hn).le
        rw [Progress.read, List.length_append]
        exact Nat.lt_of_le_of_lt hle (by simp [marked])
      have hwithout : withoutAt (read.length :: positions) ((marked 1).reverse ++ read) =
          (marked 0).reverse ++ withoutAt positions read := withoutAt_marked hpositions
      have hrest := @ih _ _ (.text start ((marked 1).reverse ++ read)) _ h.reference trivial
        hglances hbehind hunbroken.2.2.2.2
      rw [Progress.recast, hwithout] at hrest
      rw [Progress.recast, scanFrom_text_marked 0 (Nat.zero_le 1), scanReferencesFrom_text_marked,
        scanFrom_text_marked 1 (Nat.le_refl 1)]
      exact hrest
    · -- Anywhere else both scans end with a fault.
      obtain ⟨tokens, hleft, hright, htokens⟩ := scan_cut (r := withoutAt positions) h hproper
        (fun hfragile => hunbroken.1 hfragile (List.prefix_append _ rest))
        (fun start read heq => htext ⟨start, read, heq⟩) hglances positions (plainReferences rest)
      have hscan := map_fst_scanReferencesFrom progress positions place (marked 1 ++ rest)
      rw [hleft, List.map_map] at hscan
      refine ⟨?_, ?_⟩
      · rw [hleft, hright, map_plainIn]
      · rw [← hscan]
        simpa using htokens
  | cons c rest hne ih =>
    -- The same character on both sides.
    have hstep : step (progress.recast (plainPlace cs) (withoutAt positions)) place' c =
        (step progress place c).recast (plainPlace cs) (withoutAt positions) :=
      step_recast (h.carries hne) rfl (withoutAt_cons hpositions)
    have hproper' := step_proper hproper place c
    have hglances' := step_glances hglances h.next c
    have hunbroken' := hunbroken.2
    rw [plainReferences_cons hne, scanFrom, scanReferencesFrom, hstep,
      noted_of_not_prefix progress positions hne, scanFrom]
    cases hnext : step progress place c with
    | stop tokens =>
      rw [hnext] at hglances'
      exact ⟨(map_plainIn cs positions tokens).symm, hglances'⟩
    | more tokens next =>
      rw [hnext] at hproper' hglances' hunbroken'
      obtain ⟨hrest, hall⟩ := ih (h.cons hne) hproper'.2 hglances'.2
        (lt_of_mem_kept hpositions hnext) hunbroken'
      rw [recast_kept] at hrest
      refine ⟨?_, List.forall_mem_append.mpr ⟨hglances'.1, hall⟩⟩
      simp only [Step.recast, hrest, List.map_append, map_plainIn]

/-- **The tokens of the text with plain references** are those of the text without the dollar signs
of the references in them, if no reference breaks off an escape or a word. -/
theorem scan_plain {text : String} (h : Progress.between.Unbroken {} text.toList) :
    scan (Document.plain text) = (scanReferences text).map (plainIn text.toList) ∧
      ∀ t ∈ scan text, t.Glances (plainPlace text.toList) := by
  have hscan := @scanFrom_plain text.toList text.toList {} {} .between [] (Passed.start text.toList)
    trivial trivial (List.forall_mem_nil _) h
  rw [scan, Document.toList_plain]
  exact hscan

end Token

end Json

end Stencil
