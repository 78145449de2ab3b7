import Stencil.Json.Token
import Stencil.Proofs.Language.Legal

/-!
# Keys of properties

In TypeScript the key of a property is a name or a string literal. A name on the wire that cannot
stand as it is goes between quotes, with a backslash in front of every quote and every backslash.
Line breaks are left as they are, and no literal may hold one: these are all that can go wrong.

## Main definitions

* `TypeScript.IsName`: what can stand as it is
* `TypeScript.Escape`, `TypeScript.LiteralText`: what can stand between the quotes of a literal
* `TypeScript.IsPropertyKey`: a name or a string literal

## Main results

* `TypeScript.literalText_flatMap_escapedChar_iff`: escaped texts that can stand between quotes
* `TypeScript.isPropertyKey_quoteIfNeeded_iff`: which names on the wire are made keys
-/

namespace Stencil.TypeScript

/-! ## The grammar of keys -/

/-- A letter, an underscore or a dollar sign, and behind it these and digits. -/
def IsName (key : List Char) : Prop :=
  ∃ first rest, key = first :: rest ∧ isIdentifierStart first = true ∧
    ∀ c ∈ rest, isIdentifierChar c = true

/-- Whether a character ends the line. -/
def isLineBreak (c : Char) : Bool := c == '\n' || c == '\r'

/-- Whether a character is a hexadecimal digit. -/
def isHexDigit (c : Char) : Bool := (Json.hexValue? c).isSome

/-- What hexadecimal digits stand for. -/
def hexNumber (digits : List Char) : Nat :=
  digits.foldl (fun n c => 16 * n + (Json.hexValue? c).getD 0) 0

/-- What stands behind the backslash of an escape: a character that is no digit, or its code with
two or four hexadecimal digits or with any number of them in braces. -/
inductive Escape : List Char → Prop
  | single {c : Char} (hdigit : c.isDigit = false) (hcode : c ≠ 'x' ∧ c ≠ 'u')
      (hbreak : isLineBreak c = false) : Escape [c]
  | byte {a b : Char} (hdigits : ∀ c ∈ [a, b], isHexDigit c = true) : Escape ['x', a, b]
  | unit {a b c d : Char} (hdigits : ∀ e ∈ [a, b, c, d], isHexDigit e = true) :
      Escape ['u', a, b, c, d]
  | point {digits : List Char} (hsome : digits ≠ []) (hdigits : ∀ c ∈ digits, isHexDigit c = true)
      (hpoint : hexNumber digits ≤ 0x10FFFF) : Escape ('u' :: '\x7b' :: (digits ++ ['\x7d']))

/-- What stands between the quotes of a string literal: every quote is escaped, every backslash
starts a complete escape, and the line does not end. -/
inductive LiteralText : List Char → Prop
  | nil : LiteralText []
  | plain {c : Char} {rest : List Char} (hquote : c ≠ '"') (hbackslash : c ≠ '\\')
      (hbreak : isLineBreak c = false) (hrest : LiteralText rest) : LiteralText (c :: rest)
  | escape {code rest : List Char} (hcode : Escape code) (hrest : LiteralText rest) :
      LiteralText ('\\' :: (code ++ rest))
  | null {rest : List Char} (hdigit : ∀ d ∈ rest.head?, d.isDigit = false)
      (hrest : LiteralText rest) : LiteralText ('\\' :: '0' :: rest)

/-- What can stand as the key of a property: a name or a string literal. -/
def IsPropertyKey (key : List Char) : Prop :=
  IsName key ∨ ∃ text, key = '"' :: (text ++ ['"']) ∧ LiteralText text

/-! ## Names -/

theorem needsQuoting_eq_false_iff {name : List Char} : needsQuoting name = false ↔ IsName name := by
  unfold needsQuoting IsName
  cases name with
  | nil => simp
  | cons first rest =>
    simp only [List.head?_cons, Option.any_some, List.all_cons, Bool.not_eq_eq_eq_not,
      Bool.not_false, Bool.and_eq_true, List.all_eq_true, List.cons.injEq]
    constructor
    · rintro ⟨hstart, -, hrest⟩
      exact ⟨first, rest, ⟨rfl, rfl⟩, hstart, hrest⟩
    · rintro ⟨_, _, ⟨rfl, rfl⟩, hstart, hrest⟩
      exact ⟨hstart, isIdentifierChar_of_isIdentifierStart hstart, hrest⟩

/-- Names do not go beyond the line. -/
theorem isLineBreak_of_isIdentifierChar {c : Char} (h : isIdentifierChar c = true) :
    isLineBreak c = false := by
  unfold isLineBreak
  rw [Bool.or_eq_false_iff, beq_eq_false_iff_ne, beq_eq_false_iff_ne]
  constructor
  · rintro rfl
    exact absurd h (by decide)
  · rintro rfl
    exact absurd h (by decide)

theorem IsName.isLineBreak_eq_false {name : List Char} (h : IsName name) :
    ∀ c ∈ name, isLineBreak c = false := by
  rw [← needsQuoting_eq_false_iff] at h
  simp only [needsQuoting, Bool.not_eq_eq_eq_not, Bool.not_false, Bool.and_eq_true,
    List.all_eq_true] at h
  exact fun c hc => isLineBreak_of_isIdentifierChar (h.2 c hc)

theorem not_isName_quote_cons (rest : List Char) : ¬ IsName ('"' :: rest) := by
  rintro ⟨first, behind, heq, hstart, -⟩
  rw [← (List.cons.inj heq).1] at hstart
  exact absurd hstart (by decide)

/-! ## Texts between quotes -/

/-- Behind a backslash, a backslash and a quote are escapes by themselves. -/
theorem literalText_pair_iff {c : Char} (hc : c = '\\' ∨ c = '"') {rest : List Char} :
    LiteralText ('\\' :: c :: rest) ↔ LiteralText rest := by
  have hplain : c.isDigit = false ∧ (c ≠ 'x' ∧ c ≠ 'u') ∧ isLineBreak c = false := by
    rcases hc with rfl | rfl <;> decide
  constructor
  · intro h
    -- Of the escapes only that of one character starts like this.
    generalize htext : '\\' :: c :: rest = text at h
    cases h with
    | nil => cases htext
    | plain _ hbackslash _ _ => exact absurd (List.cons.inj htext).1.symm hbackslash
    | null _ _ =>
      have hzero : c = '0' := (List.cons.inj (List.cons.inj htext).2).1
      exact absurd hplain.1 (by rw [hzero]; decide)
    | escape hcode hrest =>
      have hbehind := (List.cons.inj htext).2
      cases hcode with
      | single _ _ _ => rwa [(List.cons.inj hbehind).2]
      | byte _ => exact absurd (List.cons.inj hbehind).1 hplain.2.1.1
      | unit _ => exact absurd (List.cons.inj hbehind).1 hplain.2.1.2
      | point _ _ _ => exact absurd (List.cons.inj hbehind).1 hplain.2.1.2
  · intro h
    have hcode : Escape [c] := .single hplain.1 hplain.2.1 hplain.2.2
    exact .escape hcode h

theorem literalText_cons_iff {c : Char} (hquote : c ≠ '"') (hbackslash : c ≠ '\\')
    {rest : List Char} :
    LiteralText (c :: rest) ↔ isLineBreak c = false ∧ LiteralText rest := by
  constructor
  · intro h
    cases h with
    | plain _ _ hbreak hrest => exact ⟨hbreak, hrest⟩
    | escape _ _ => exact absurd rfl hbackslash
    | null _ _ => exact absurd rfl hbackslash
  · rintro ⟨hbreak, hrest⟩
    exact .plain hquote hbackslash hbreak hrest

/-- An escaped character can stand in a literal unless it ends the line. -/
theorem literalText_escapedChar_append_iff (c : Char) (rest : List Char) :
    LiteralText (escapedChar c ++ rest) ↔ isLineBreak c = false ∧ LiteralText rest := by
  by_cases hbackslash : c = '\\'
  · subst hbackslash
    have hpair : LiteralText ('\\' :: '\\' :: rest) ↔ LiteralText rest :=
      literalText_pair_iff (Or.inl rfl)
    exact hpair.trans (by simp [isLineBreak])
  by_cases hquote : c = '"'
  · subst hquote
    have hpair : LiteralText ('\\' :: '"' :: rest) ↔ LiteralText rest :=
      literalText_pair_iff (Or.inr rfl)
    exact hpair.trans (by simp [isLineBreak])
  · have hself : escapedChar c = [c] := by rw [escapedChar, if_neg hbackslash, if_neg hquote]
    rw [hself]
    exact literalText_cons_iff hquote hbackslash

/-- **Escaped texts** can stand between quotes exactly if they hold no line break. -/
theorem literalText_flatMap_escapedChar_iff {name : List Char} :
    LiteralText (name.flatMap escapedChar) ↔ ∀ c ∈ name, isLineBreak c = false := by
  induction name with
  | nil => simp [LiteralText.nil]
  | cons c rest ih =>
    rw [List.flatMap_cons, literalText_escapedChar_append_iff, ih, List.forall_mem_cons]

theorem escapedChar_of_isLineBreak {c : Char} (h : isLineBreak c = true) : escapedChar c = [c] := by
  unfold escapedChar
  split_ifs with hbackslash hquote
  · exact absurd h (by rw [hbackslash]; decide)
  · exact absurd h (by rw [hquote]; decide)
  · rfl

/-- Characters may be left out before a text is escaped as well as behind, if quotes and
backslashes are treated alike. -/
theorem filter_flatMap_escapedChar {p : Char → Bool} (hbackslash : p '\\' = p '"')
    (name : List Char) :
    (name.flatMap escapedChar).filter p = (name.filter p).flatMap escapedChar := by
  induction name with
  | nil => rfl
  | cons c rest ih =>
    have hchar : (escapedChar c).filter p = if p c = true then escapedChar c else [] := by
      unfold escapedChar
      split_ifs with hc hquote <;> simp_all
    rw [List.flatMap_cons, List.filter_append, ih, hchar, List.filter_cons]
    split_ifs <;> rfl

/-! ## Keys -/

/-- A name in quotes is a key exactly if it holds no line break. -/
theorem isPropertyKey_quoted_iff {name : List Char} (h : needsQuoting name = true) :
    IsPropertyKey (quoteIfNeeded name) ↔ ∀ c ∈ name, isLineBreak c = false := by
  have hquoted : quoteIfNeeded name = '"' :: (name.flatMap escapedChar ++ ['"']) := if_pos h
  rw [hquoted, ← literalText_flatMap_escapedChar_iff]
  constructor
  · rintro (hname | ⟨text, heq, htext⟩)
    · exact absurd hname (not_isName_quote_cons _)
    · rwa [List.append_cancel_right (List.cons.inj heq).2]
  · exact fun htext => Or.inr ⟨_, rfl, htext⟩

/-- **Keys of properties**: what is made of a name on the wire is a key exactly if the name holds no
line break. A name of the language is a key as it stands. Any other goes between quotes, and there
every quote is escaped and every backslash starts a complete escape: without its line breaks,
which are those of the name, the text between the quotes is that of a literal. -/
theorem isPropertyKey_quoteIfNeeded_iff (name : List Char) :
    (IsPropertyKey (quoteIfNeeded name) ↔ ∀ c ∈ name, isLineBreak c = false) ∧
      (IsName name ∧ quoteIfNeeded name = name ∨
        ¬ IsName name ∧ ∃ text, quoteIfNeeded name = '"' :: (text ++ ['"']) ∧
          LiteralText (text.filter fun c => !isLineBreak c) ∧
          text.filter isLineBreak = name.filter isLineBreak) := by
  cases hquoting : needsQuoting name with
  | false =>
    have hname := needsQuoting_eq_false_iff.mp hquoting
    have hself : quoteIfNeeded name = name := if_neg (by rw [hquoting]; decide)
    refine ⟨?_, Or.inl ⟨hname, hself⟩⟩
    rw [hself]
    exact ⟨fun _ => hname.isLineBreak_eq_false, fun _ => Or.inl hname⟩
  | true =>
    refine ⟨isPropertyKey_quoted_iff hquoting, Or.inr ⟨fun hname => ?_, ?_⟩⟩
    · rw [← needsQuoting_eq_false_iff, hquoting] at hname
      cases hname
    -- Line breaks are passed on as they are, so that they may as well be left out of the name.
    refine ⟨name.flatMap escapedChar, if_pos hquoting, ?_, ?_⟩
    · rw [filter_flatMap_escapedChar rfl, literalText_flatMap_escapedChar_iff]
      intro c hc
      simpa using (List.mem_filter.mp hc).2
    · rw [filter_flatMap_escapedChar rfl]
      calc (name.filter isLineBreak).flatMap escapedChar
          = (name.filter isLineBreak).flatMap fun c => [c] :=
            List.flatMap_congr fun c hc => escapedChar_of_isLineBreak (List.mem_filter.mp hc).2
        _ = name.filter isLineBreak := List.flatMap_singleton' _

/-- A name that goes over two lines is put between quotes as it is. -/
theorem not_isPropertyKey_twoLines :
    language.propertyIdentifier "a\nb" "Pet" = "\"a\nb\"" ∧
      ¬ IsPropertyKey (language.propertyIdentifier "a\nb" "Pet").toList := by
  refine ⟨by decide, ?_⟩
  change ¬ IsPropertyKey (String.ofList (quoteIfNeeded "a\nb".toList)).toList
  rw [String.toList_ofList, isPropertyKey_quoted_iff (by decide)]
  exact fun hbreaks => absurd (hbreaks '\n' (by decide)) (by decide)

end Stencil.TypeScript
