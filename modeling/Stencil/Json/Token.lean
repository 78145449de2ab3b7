import Stencil.Json.Fault

/-!
# Tokens of JSON texts

A text is read character by character.  What has been read of the current token is
a value of type `Progress`; a step looks at one character and either goes on, puts
out finished tokens, or ends the reading with a token that no text can continue.

The reading always ends with such a token: the end of the text, a token with a
fault inside, or a character with which no token starts.

## Main definitions

* `Progress.step`: one character.
* `Token.scan`: the tokens of a text.
-/

namespace Stencil.Json

/-- What a token is. -/
inductive Lexeme where
  | beginObject
  | endObject
  | beginList
  | endList
  | colon
  | comma
  | scalar (value : Scalar)
  /-- A token that starts like a scalar and has a fault inside; `isText` says that
  it starts with a quote. -/
  | broken (fault : Fault) (isText : Bool)
  /-- A character with which no token starts. -/
  | stray
  /-- The end of the text. -/
  | finish

/-- A token and where it starts and stops. -/
structure Token where
  lexeme : Lexeme
  start : Place
  stop : Place

namespace Token

/-- Where a fault is reported that is found when the token is looked at: behind its
first byte, or at the end of the text. -/
def glance (t : Token) : Place :=
  match t.lexeme with
  | .finish => t.start
  | _ => t.start.next

end Token

/-- Which part of a numeral comes next. -/
inductive NumeralPart where
  /-- The first digit, a minus sign being read. -/
  | first
  /-- What follows a zero before the point. -/
  | afterZero
  /-- More digits before the point. -/
  | whole
  /-- The first digit behind the point. -/
  | firstFraction
  /-- More digits behind the point. -/
  | fraction
  /-- A sign or the first digit of the exponent. -/
  | exponentSign
  /-- The first digit of the exponent. -/
  | firstExponent (negative : Bool)
  /-- More digits of the exponent. -/
  | exponent (negative : Bool)
deriving DecidableEq

/-- What has been read of the current token. -/
inductive Progress where
  /-- Nothing. -/
  | between
  /-- The start of a word, of which `rest` is missing. -/
  | word (start : Place) (value : Scalar) (rest : List Char)
  /-- The start of a numeral. -/
  | numeral (start : Place) (part : NumeralPart) (read : Numeral)
  /-- The characters of a text, the last one first. -/
  | text (start : Place) (read : List Char)
  /-- A text and a backslash. -/
  | escape (start : Place) (read : List Char)
  /-- A text and a part of four hexadecimal digits: the bytes that are missing, the
  value so far unless a digit was bad, and the first half of a surrogate pair. -/
  | hex (start : Place) (read : List Char) (high : Option Nat) (missing : Nat)
      (value : Option Nat)
  /-- A text and the first half of a surrogate pair. -/
  | pair (start : Place) (read : List Char) (high : Nat)
  /-- A text, the first half of a surrogate pair and a backslash. -/
  | pairEscape (start : Place) (read : List Char) (high : Nat)

/-- What a step leads to. -/
inductive Step where
  /-- Finished tokens and what is read of the next one. -/
  | more (tokens : List Token) (progress : Progress)
  /-- The last tokens. -/
  | stop (tokens : List Token)

/-- Whether a character may stand between tokens. -/
def isSpace (c : Char) : Bool := c == ' ' || c == '\n' || c == '\t' || c == '\r'

/-- A token with a fault. -/
def Token.broken (start : Place) (isText : Bool) (reason : Reason) (place : Place) : Token :=
  ⟨.broken ⟨reason, place⟩ isText, start, place⟩

/-- The value of a hexadecimal digit. -/
def hexValue? (c : Char) : Option Nat :=
  if c.isDigit then some (c.toNat - '0'.toNat)
  else if 'a' ≤ c ∧ c ≤ 'f' then some (c.toNat - 'a'.toNat + 10)
  else if 'A' ≤ c ∧ c ≤ 'F' then some (c.toNat - 'A'.toNat + 10)
  else none

/-- The character that an escape letter stands for. -/
def escapedChar? : Char → Option Char
  | '"' => some '"'
  | '\\' => some '\\'
  | '/' => some '/'
  | 'b' => some '\x08'
  | 'f' => some '\x0c'
  | 'n' => some '\n'
  | 'r' => some '\r'
  | 't' => some '\t'
  | _ => none

namespace Progress

/-- The first character of a token. -/
def begin (place : Place) (c : Char) : Step :=
  let after := place.after c
  let single (lexeme : Lexeme) : Step := .more [⟨lexeme, place, after⟩] .between
  if isSpace c then .more [] .between
  else if c.isDigit then
    .more [] (.numeral place (if c = '0' then .afterZero else .whole) { whole := [c] })
  else match c with
    | '\x7b' => single .beginObject
    | '\x7d' => single .endObject
    | '[' => single .beginList
    | ']' => single .endList
    | ':' => single .colon
    | ',' => single .comma
    | '"' => .more [] (.text place [])
    | '-' => .more [] (.numeral place .first { negative := true })
    | 'n' => .more [] (.word place .null ['u', 'l', 'l'])
    | 't' => .more [] (.word place (.boolean true) ['r', 'u', 'e'])
    | 'f' => .more [] (.word place (.boolean false) ['a', 'l', 's', 'e'])
    | _ => .stop [⟨.stray, place, place⟩]

/-- The token of a complete numeral that ends at a place. -/
def numeralToken (start : Place) (read : Numeral) (place : Place) : Token :=
  match read.value? with
  | some value => ⟨.scalar (.number value), start, place⟩
  | none => .broken start false .numberTooLarge place

/-- A numeral that ends before the character, which starts the next token. -/
def endNumeral (start : Place) (read : Numeral) (place : Place) (c : Char) : Step :=
  match read.value? with
  | some value =>
    match begin place c with
    | .more tokens progress =>
      .more (⟨.scalar (.number value), start, place⟩ :: tokens) progress
    | .stop tokens => .stop (⟨.scalar (.number value), start, place⟩ :: tokens)
  | none => .stop [.broken start false .numberTooLarge place]

/-- The largest exponent that is told apart from larger ones. -/
def greatestExponent : Int := twoTo 31 - 1

/-- One more digit of an exponent.  A numeral is given up as soon as its exponent
makes it too large. -/
def exponentDigit (start : Place) (negative : Bool) (read : Numeral) (place : Place)
    (c : Char) : Step :=
  let exponent := (read.exponent.getD 0).natAbs * 10 + digitValue c
  if !negative && exponent > greatestExponent && read.parts.1 ≠ 0 then
    .stop [.broken start false .numberTooLarge (place.after c)]
  else
    let signed : Int := if negative then -exponent else exponent
    .more [] (.numeral start (.exponent negative) { read with exponent := some signed })

/-- One character of a numeral. -/
def stepNumeral (start : Place) (part : NumeralPart) (read : Numeral) (place : Place)
    (c : Char) : Step :=
  let bad (at' : Place) : Step := .stop [.broken start false .badNumeral at']
  let goOn (part : NumeralPart) (read : Numeral) : Step := .more [] (.numeral start part read)
  /- A point or an exponent may follow the digits before the point. -/
  let afterWhole : Step :=
    if c = '.' then goOn .firstFraction { read with fraction := some [] }
    else if c = 'e' ∨ c = 'E' then goOn .exponentSign read
    else endNumeral start read place c
  let fractionDigit : Step :=
    goOn .fraction { read with fraction := some (read.fraction.getD [] ++ [c]) }
  match part with
  | .first =>
    if c = '0' then goOn .afterZero { read with whole := [c] }
    else if c.isDigit then goOn .whole { read with whole := [c] }
    else bad (place.within c 1)
  | .afterZero => if c.isDigit then bad (place.within c 1) else afterWhole
  | .whole =>
    if c.isDigit then goOn .whole { read with whole := read.whole ++ [c] } else afterWhole
  | .firstFraction => if c.isDigit then fractionDigit else bad (place.within c 1)
  | .fraction =>
    if c.isDigit then fractionDigit
    else if c = 'e' ∨ c = 'E' then goOn .exponentSign read
    else endNumeral start read place c
  | .exponentSign =>
    if c = '+' then goOn (.firstExponent false) read
    else if c = '-' then goOn (.firstExponent true) read
    else if c.isDigit then exponentDigit start false read place c
    else bad (place.within c 1)
  | .firstExponent negative =>
    if c.isDigit then exponentDigit start negative read place c else bad (place.within c 1)
  | .exponent negative =>
    if c.isDigit then exponentDigit start negative read place c
    else endNumeral start read place c

/-- Whether a numeral may end after what has been read of it. -/
def canEnd : NumeralPart → Bool
  | .afterZero | .whole | .fraction | .exponent _ => true
  | _ => false

/-- Four hexadecimal digits that are complete at a place.  The second half of a
surrogate pair has to follow the first one. -/
def endHex (start : Place) (read : List Char) (high : Option Nat) (value : Option Nat)
    (place : Place) : Step :=
  let fail (reason : Reason) : Step := .stop [.broken start true reason place]
  match value, high with
  | none, _ => fail .badEscape
  | some n, none =>
    if 0xDC00 ≤ n ∧ n ≤ 0xDFFF then fail .badPair
    else if 0xD800 ≤ n ∧ n ≤ 0xDBFF then .more [] (.pair start read n)
    else .more [] (.text start (Char.ofNat n :: read))
  | some low, some high =>
    if 0xDC00 ≤ low ∧ low ≤ 0xDFFF then
      .more [] (.text start
        (Char.ofNat ((high - 0xD800) * 0x400 + (low - 0xDC00) + 0x10000) :: read))
    else fail .badPair

/-- One character. -/
def step (progress : Progress) (place : Place) (c : Char) : Step :=
  match progress with
  | .between => begin place c
  | .word start value rest =>
    match rest with
    | [] => begin place c
    | expected :: rest =>
      if c ≠ expected then .stop [.broken start false .badLiteral (place.within c 1)]
      else if rest.isEmpty then .more [⟨.scalar value, start, place.after c⟩] .between
      else .more [] (.word start value rest)
  | .numeral start part read => stepNumeral start part read place c
  | .text start read =>
    if c = '"' then
      .more [⟨.scalar (.text (String.ofList read.reverse)), start, place.after c⟩] .between
    else if c = '\\' then .more [] (.escape start read)
    else if c.toNat < 0x20 then .stop [.broken start true .controlCharacter (place.after c)]
    else .more [] (.text start (c :: read))
  | .escape start read =>
    if c = 'u' then .more [] (.hex start read none 4 (some 0))
    else match escapedChar? c with
      | some escaped => .more [] (.text start (escaped :: read))
      | none => .stop [.broken start true .badEscape (place.within c 1)]
  | .hex start read high missing value =>
    let value := do return (← value) * 16 + (← hexValue? c)
    if c.utf8Size < missing then .more [] (.hex start read high (missing - c.utf8Size) value)
    else endHex start read high value (place.within c missing)
  | .pair start read high =>
    if c = '\\' then .more [] (.pairEscape start read high)
    else .stop [.broken start true .halfPair (place.within c 1)]
  | .pairEscape start read high =>
    if c = 'u' then .more [] (.hex start read (some high) 4 (some 0))
    else .stop [.broken start true .halfPair (place.within c 1)]

/-- The tokens at the end of the text. -/
def finish (progress : Progress) (place : Place) : List Token :=
  match progress with
  | .between => [⟨.finish, place, place⟩]
  | .word start _ _ => [.broken start false .endInValue place]
  | .numeral start part read =>
    if canEnd part then [numeralToken start read place, ⟨.finish, place, place⟩]
    else [.broken start false .endInValue place]
  | .text start _ | .escape start _ | .hex start _ _ _ _ | .pair start _ _
  | .pairEscape start _ _ => [.broken start true .endInText place]

end Progress

namespace Token

/-- The tokens of the rest of a text. -/
def scanFrom (progress : Progress) (place : Place) : List Char → List Token
  | [] => progress.finish place
  | c :: rest =>
    match progress.step place c with
    | .more tokens progress => tokens ++ scanFrom progress (place.after c) rest
    | .stop tokens => tokens

/-- The tokens of a text. -/
def scan (text : String) : List Token := scanFrom .between {} text.toList

end Token

end Stencil.Json
