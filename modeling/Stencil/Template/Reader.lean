import Stencil.Decimal.Binary
import Stencil.Json.Number

/-!
# Readers

What stands in the tags of a template is read from the left, character by character.  A
reader takes the longest thing of its kind that is there, or fails; of two readers joined by
`<|>` the second one is tried where the first one fails.

## Main definitions

* `Reader`: a reader.
* `Reader.repeated`: what a reader takes as often as it can.
* `Reader.whole?`: what a reader takes from a text that it has to take as a whole.
-/

namespace Stencil.Template

/-- A reader takes characters from the left, or fails. -/
abbrev Reader := StateT (List Char) Option

namespace Reader

/-! ## Characters -/

/-- Whether a character may stand between the parts of a tag. -/
def isSpace (c : Char) : Bool := c == ' ' || c == '\t' || c == '\r' || c == '\n'

/-- Whether a character may stand in a name. -/
def isNameChar (c : Char) : Bool := c.isAlphanum || c == '_'

/-- Whether a name may start with a character. -/
def isNameStart (c : Char) : Bool := c.isAlpha || c == '_'

/-- Whether a character stands around a text. -/
def isQuote (c : Char) : Bool := c == '"' || c == '\'' || c == '\x60'

/-! ## Combinations -/

/-- Takes blanks, if there are any. -/
def blanks : Reader Unit := fun cs => some ((), cs.dropWhile isSpace)

/-- Takes one blank. -/
def blank : Reader Unit
  | c :: rest => if isSpace c then some ((), rest) else none
  | [] => none

/-- Takes the characters of a word, of which more may follow. -/
def exactly (word : String) : Reader Unit := fun cs =>
  if word.toList.isPrefixOf cs then some ((), cs.drop word.length) else none

/-- Takes a word, possibly behind blanks. -/
def symbol (word : String) : Reader Unit := do
  blanks
  exactly word

/-- Takes a word, possibly behind blanks, and one blank behind it. -/
def spacedWord (word : String) : Reader Unit := do
  symbol word
  blank

/-- Whether a reader takes something. -/
def takes (reader : Reader Unit) : Reader Bool := (do reader; return true) <|> return false

/-- What a reader takes up to `limit` times. -/
def upTo {α : Type} (reader : Reader α) : (limit : Nat) → List Char → List α × List Char
  | 0, cs => ([], cs)
  | limit + 1, cs =>
    match reader cs with
    | none => ([], cs)
    | some (first, rest) =>
      let (others, rest) := upTo reader limit rest
      (first :: others, rest)

/-- What a reader takes as often as it can.  It has to take at least one character each
time. -/
def repeated {α : Type} (reader : Reader α) : Reader (List α) := fun cs =>
  some (upTo reader cs.length cs)

/-- What a reader takes once or more often, with commas between. -/
def separated {α : Type} (reader : Reader α) : Reader (List α) := do
  let first ← reader
  let others ← repeated do
    symbol ","
    reader
  return first :: others

/-- What a reader takes from a text with nothing but blanks behind it. -/
def whole? {α : Type} (reader : Reader α) (cs : List Char) : Option α :=
  match reader cs with
  | some (a, rest) => if rest.all isSpace then some a else none
  | none => none

/-! ## Names and literals -/

/-- The characters of a name. -/
def nameChars : Reader (List Char)
  | c :: rest => if isNameStart c then some ((c :: rest).span isNameChar) else none
  | [] => none

/-- A name, possibly behind blanks. -/
def name : Reader String := do
  blanks
  return String.ofList (← nameChars)

/-- A text in quotes, with the quotes. -/
def quotedChars : Reader (List Char)
  | mark :: rest =>
    match isQuote mark, rest.span (· != mark) with
    | true, (inside, _ :: rest) => some (mark :: inside ++ [mark], rest)
    | _, _ => none
  | [] => none

/-- A text in quotes, possibly behind blanks, without the quotes. -/
def quoted : Reader String := do
  blanks
  return String.ofList ((← quotedChars).drop 1).dropLast

/-- Digits with no needless zero in front. -/
def digits : Reader (List Char)
  | '0' :: rest => some (['0'], rest)
  | c :: rest => if c.isDigit then some ((c :: rest).span Char.isDigit) else none
  | [] => none

/-- Whether there is a minus sign, which is taken. -/
def minus : Reader Bool := takes (exactly "-")

/-- The characters of a whole number. -/
def wholeChars : Reader (List Char) := do
  let negative ← minus
  return (if negative then ['-'] else []) ++ (← digits)

/-- The value of digits. -/
def valueOf (digits : List Char) : Nat := digits.foldl (fun n c => n * 10 + Json.digitValue c) 0

/-- A whole number of at most 64 bits with its sign, possibly behind blanks. -/
def wholeNumber : Reader Int := do
  blanks
  let negative ← minus
  let n := valueOf (← digits)
  if n < twoTo 63 then return if negative then -(n : Int) else n
  else if negative && n == twoTo 63 then return -(n : Int)
  else failure

/-- A fraction with digits on both sides of its point, possibly behind blanks. -/
def fraction : Reader Binary := do
  blanks
  let negative ← minus
  let before ← digits
  exactly "."
  let behind : List Char ← fun cs => some (cs.span Char.isDigit)
  if behind.isEmpty then failure
  match Magnitude.roundRatio (valueOf (before ++ behind)) (tenTo behind.length) with
  | some magnitude => return ⟨negative, magnitude⟩
  | none => failure

end Reader

end Stencil.Template
