import Stencil.Proofs.Json.Alike
import Stencil.Proofs.Json.Scan

/-!
# Texts that are scanned side by side

Two texts are scanned character by character. What is read of a token in the one and in the other is
alike: it has begun at places that belong together, and so do the characters of a text literal. The
same character keeps it so.

## Main definitions

* `Accumulates L`: a relation between characters that is kept by one more on both sides
* `Progress.Alike`, `Token.Alike`, `Step.Alike`: what is read of the one text and of the other, with
  a relation `R k` between places, where `k` counts what is gone in front of them, and a relation
  `L` between the characters of text literals

## Main results

* `Progress.step_alike`: the same character leads to the same
* `Progress.finish_alike`: the end of both texts
* `Token.scanFrom_move`: the tokens of the same text at different places
-/

namespace Stencil.Json

/-- The same character behind characters that are related. -/
structure Accumulates (L : List Char → List Char → Prop) : Prop where
  nil : L [] []
  snoc : ∀ {cs ds} (c : Char), L cs ds → L (cs ++ [c]) (ds ++ [c])

variable {R : Nat → Place → Place → Prop} {L : List Char → List Char → Prop} {k : Nat}

theorem Accumulates.cons (hL : Accumulates L) {read read' : List Char}
    (h : L read.reverse read'.reverse) (c : Char) : L (c :: read).reverse (c :: read').reverse := by
  rw [List.reverse_cons, List.reverse_cons]
  exact hL.snoc c h

/-! ## Side by side -/

/-- The same that is read of a token, at places that `R` relates, with characters of a text that `L`
relates. -/
inductive Progress.Alike (R : Nat → Place → Place → Prop) (L : List Char → List Char → Prop)
    (k : Nat) : Progress → Progress → Prop
  | between : Alike R L k .between .between
  | word {start start' value rest} : R k start start' →
    Alike R L k (.word start value rest) (.word start' value rest)
  | numeral {start start' part read} : R k start start' →
    Alike R L k (.numeral start part read) (.numeral start' part read)
  | text {j start start' read read'} : R j start start' →
    L read.reverse read'.reverse → Alike R L k (.text start read) (.text start' read')
  | escape {j start start' read read'} : R j start start' →
    L read.reverse read'.reverse → Alike R L k (.escape start read) (.escape start' read')
  | hex {j start start' read read' high missing value} : R j start start' →
    L read.reverse read'.reverse →
    Alike R L k (.hex start read high missing value) (.hex start' read' high missing value)
  | pair {j start start' read read' high} : R j start start' →
    L read.reverse read'.reverse →
    Alike R L k (.pair start read high) (.pair start' read' high)
  | pairEscape {j start start' read read' high} : R j start start' →
    L read.reverse read'.reverse →
    Alike R L k (.pairEscape start read high) (.pairEscape start' read' high)

/-- The same token at places that `R` relates, two texts with characters that `L` relates, or two
faults. -/
inductive Token.Alike (R : Nat → Place → Place → Prop) (L : List Char → List Char → Prop) :
    Token → Token → Prop
  | same {k lexeme start start' stop stop'} : R k start start' → R k stop stop' →
    Alike R L ⟨lexeme, start, stop⟩ ⟨lexeme, start', stop'⟩
  | text {j k s s' start start' stop stop'} : L s.toList s'.toList → R j start start' →
    R k stop stop' →
    Alike R L ⟨.scalar (.text s), start, stop⟩ ⟨.scalar (.text s'), start', stop'⟩
  | broken {start start' isText reason reason' place place'} :
    Alike R L (.broken start isText reason place) (.broken start' isText reason' place')

/-- The same step. -/
inductive Step.Alike (R : Nat → Place → Place → Prop) (L : List Char → List Char → Prop) (k : Nat) :
    Step → Step → Prop
  | more {tokens tokens' progress progress'} : List.Forall₂ (Token.Alike R L) tokens tokens' →
    progress.Alike R L k progress' → Alike R L k (.more tokens progress) (.more tokens' progress')
  | stop {tokens tokens'} : List.Forall₂ (Token.Alike R L) tokens tokens' →
    Alike R L k (.stop tokens) (.stop tokens')

namespace Progress

/-! ## One character on both sides -/

section SameCharacter

variable (hL : Accumulates L) {place place' : Place} {c : Char} (hplace : R k place place')
  (hafter : R k (place.after c) (place'.after c))

theorem stop_broken_alike (start start' : Place) (isText : Bool) (reason reason' : Reason)
    (place place' : Place) :
    (Step.stop [.broken start isText reason place]).Alike R L k
      (.stop [.broken start' isText reason' place']) :=
  .stop (.cons .broken .nil)

include hL hplace hafter in
theorem begin_alike : (begin place c).Alike R L k (begin place' c) := by
  cases opens c with
  | stray h =>
    rw [h, h]
    exact .stop (.cons (.same hplace hplace) .nil)
  | blank _ h =>
    rw [h, h]
    exact .more .nil .between
  | single lexeme _ _ h =>
    rw [h, h]
    exact .more (.cons (.same hplace hafter) .nil) .between
  | numeral part read _ h =>
    rw [h, h]
    exact .more .nil (.numeral hplace)
  | word value rest _ _ h =>
    rw [h, h]
    exact .more .nil (.word hplace)
  | text _ h =>
    rw [h, h]
    exact .more .nil (.text hplace hL.nil)

/-- A numeral that ends, in front of characters that lead to the same. -/
theorem endNumeral_alike {start start' : Place} (hstart : R k start start') (read : Numeral)
    (hplace : R k place place') {c c' : Char}
    (hbegin : (begin place c).Alike R L k (begin place' c')) :
    (endNumeral start read place c).Alike R L k (endNumeral start' read place' c') := by
  unfold endNumeral
  cases read.value? with
  | none => exact stop_broken_alike start start' false _ _ _ _
  | some value =>
    revert hbegin
    generalize begin place c = step
    generalize begin place' c' = step'
    intro hbegin
    cases hbegin with
    | more htokens hprogress => exact .more (.cons (.same hstart hplace) htokens) hprogress
    | stop htokens => exact .stop (.cons (.same hstart hplace) htokens)

include hL hplace hafter in
theorem stepNumeral_alike {start start' : Place} (hstart : R k start start') (part : NumeralPart)
    (read : Numeral) :
    (stepNumeral start part read place c).Alike R L k (stepNumeral start' part read place' c) := by
  cases extends_cases part read c with
  | broken h =>
    obtain ⟨reason, at₁, h₁⟩ := h start place
    obtain ⟨reason', at₂, h₂⟩ := h start' place'
    rw [h₁, h₂]
    exact stop_broken_alike start start' false _ _ _ _
  | further part' read' _ h =>
    rw [h, h]
    exact .more .nil (.numeral hstart)
  | ends h =>
    rw [h, h]
    exact endNumeral_alike hstart read hplace (begin_alike hL hplace hafter)

include hL in
theorem endHex_alike {j : Nat} {start start' : Place} (hstart : R j start start')
    {read read' : List Char} (hread : L read.reverse read'.reverse)
    (high value : Option Nat) (place place' : Place) :
    (endHex start read high value place).Alike R L k (endHex start' read' high value place') := by
  cases decodes high value with
  | broken reason h =>
    rw [h, h]
    exact stop_broken_alike start start' true _ _ _ _
  | text c _ h =>
    rw [h, h]
    exact .more .nil (.text hstart (hL.cons hread c))
  | pair n _ h =>
    rw [h, h]
    exact .more .nil (.pair hstart hread)

include hL hplace hafter in
/-- **The same character** leads to the same on both sides. -/
theorem step_alike {progress progress' : Progress} (h : progress.Alike R L k progress') :
    (step progress place c).Alike R L k (step progress' place' c) := by
  cases h with
  | between => exact begin_alike hL hplace hafter
  | @word start start' value rest hstart =>
    cases rest with
    | nil => exact begin_alike hL hplace hafter
    | cons expected rest =>
      unfold step
      dsimp only
      split_ifs
      · exact stop_broken_alike start start' false _ _ _ _
      · exact .more (.cons (.same hstart hafter) .nil) .between
      · exact .more .nil (.word hstart)
  | numeral hstart => exact stepNumeral_alike hL hplace hafter hstart _ _
  | @text j start start' read read' hstart hread =>
    have htext : L (String.ofList read.reverse).toList (String.ofList read'.reverse).toList := by
      rwa [String.toList_ofList, String.toList_ofList]
    -- The literal ends, an escape begins, or the character is a part of it.
    unfold step
    dsimp only
    split_ifs
    · exact .more (.cons (.text htext hstart hafter) .nil) .between
    · exact .more .nil (.escape hstart hread)
    · exact stop_broken_alike start start' true _ _ _ _
    · exact .more .nil (.text hstart (hL.cons hread c))
  | @escape j start start' read read' hstart hread =>
    unfold step
    dsimp only
    split_ifs
    · exact .more .nil (.hex hstart hread)
    · cases escapedChar? c with
      | some escaped => exact .more .nil (.text hstart (hL.cons hread escaped))
      | none => exact stop_broken_alike start start' true _ _ _ _
  | hex hstart hread =>
    unfold step
    dsimp only
    split_ifs
    · exact .more .nil (.hex hstart hread)
    · exact endHex_alike hL hstart hread _ _ _ _
  | @pair j start start' _ _ _ hstart hread =>
    unfold step
    dsimp only
    split_ifs
    · exact .more .nil (.pairEscape hstart hread)
    · exact stop_broken_alike start start' true _ _ _ _
  | @pairEscape j start start' _ _ _ hstart hread =>
    unfold step
    dsimp only
    split_ifs
    · exact .more .nil (.hex hstart hread)
    · exact stop_broken_alike start start' true _ _ _ _

include hplace in
theorem finish_alike {progress progress' : Progress} (h : progress.Alike R L k progress') :
    List.Forall₂ (Token.Alike R L) (finish progress place) (finish progress' place') := by
  cases h with
  | between => exact .cons (.same hplace hplace) .nil
  | word _ => exact .cons .broken .nil
  | numeral hstart =>
    unfold finish numeralToken
    dsimp only
    split_ifs
    · cases Numeral.value? _ with
      | none => exact .cons .broken (.cons (.same hplace hplace) .nil)
      | some value => exact .cons (.same hstart hplace) (.cons (.same hplace hplace) .nil)
    · exact .cons .broken .nil
  | text _ _ | escape _ _ | hex _ _ | pair _ _ | pairEscape _ _ => exact .cons .broken .nil

end SameCharacter

end Progress

namespace Token

theorem Alike.lexeme (hL : ∀ cs, L cs cs) {t t' : Token} (h : t.Alike R L t') :
    t.lexeme.Alike (fun s s' => L s.toList s'.toList) t'.lexeme := by
  cases h with
  | same _ _ => exact .refl (fun s => hL s.toList) _
  | text htext _ _ => exact .scalar (.text htext)
  | broken => exact .broken

/-! ## The same text at different places -/

theorem accumulates_eq : Accumulates Eq where
  nil := rfl
  snoc c h := by rw [h]

theorem scanFrom_alike_of_eq {progress progress' : Progress}
    (h : progress.Alike (fun _ _ _ => True) Eq 0 progress') (place place' : Place)
    (cs : List Char) :
    List.Forall₂ (Token.Alike (fun _ _ _ => True) Eq) (scanFrom progress place cs)
      (scanFrom progress' place' cs) := by
  induction cs generalizing progress progress' place place' with
  | nil => exact Progress.finish_alike trivial h
  | cons c cs ih =>
    have hstep := @Progress.step_alike (fun _ _ _ => True) Eq 0 accumulates_eq place place' c
      trivial trivial _ _ h
    rw [scanFrom, scanFrom]
    revert hstep
    generalize Progress.step progress place c = step
    generalize Progress.step progress' place' c = step'
    intro hstep
    cases hstep with
    | more htokens hprogress => exact List.rel_append htokens (ih hprogress _ _)
    | stop htokens => exact htokens

/-- **The same text** has the same tokens wherever it stands. -/
theorem scanFrom_move (place place' : Place) (cs : List Char) :
    TokensAlike Eq (scanFrom .between place cs) (scanFrom .between place' cs) := by
  have hlexemes : (fun s s' : String => s.toList = s'.toList) = Eq := by
    funext s s'
    exact propext String.toList_inj
  rw [← hlexemes]
  exact (scanFrom_alike_of_eq .between place place' cs).imp fun t t' ht => ht.lexeme fun _ => rfl

end Token

end Stencil.Json
