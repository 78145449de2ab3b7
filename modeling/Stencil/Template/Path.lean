import Stencil.Json.Value
import Stencil.Template.Reader
import Stencil.Text.Split

/-!
# Paths

How a template names a value: a variable and the steps from it into objects and lists, each
behind a dot or in brackets.  In brackets stands a number, a text, or another path whose value
is used.

A path is looked up by its spelling.  First the paths in brackets are put in as values, then
brackets are turned into dots, with quotes around names.  The trail that comes out is a
variable and, behind the first dot, names with dots between them; dots between quotes belong
to a name.  Quotes of either kind begin and end names, so a name that holds a quote or a
bracket is not found as it is.

## Main definitions

* `Path.read`: the path that a text starts with.
* `Path.subscripts`: the paths in brackets.
* `Trail.ofPlain`: the trail that a spelling without brackets stands for.
* `Trail.walk?`: the value that the names of a trail lead to.
-/

namespace Stencil.Template

open Stencil.Json (Value)

/-- A path as it stands in a template. -/
structure Path where
  spelling : String
deriving DecidableEq, Repr

namespace Path

/-! ## Reading -/

mutual

/-- The characters of a path. -/
def chars : (fuel : Nat) → Reader (List Char)
  | 0 => failure
  | fuel + 1 => do
    let name ← Reader.nameChars
    let steps ← Reader.repeated (step fuel)
    return name ++ steps.flatten

/-- The characters of a step with its dot or brackets. -/
def step : (fuel : Nat) → Reader (List Char)
  | 0 => failure
  | fuel + 1 =>
    (do
      Reader.exactly "."
      let name : List Char ← fun cs => some (cs.span Reader.isNameChar)
      if name.isEmpty then failure
      return '.' :: name) <|>
    (do
      Reader.exactly "["
      let inside ← Reader.wholeChars <|> Reader.quotedChars <|> chars fuel
      Reader.exactly "]"
      return '[' :: inside ++ [']'])

end

/-- The path that a text starts with, possibly behind blanks. -/
def read : Reader Path := do
  Reader.blanks
  fun cs => (chars (2 * cs.length + 1) cs).map fun (spelling, rest) =>
    (⟨String.ofList spelling⟩, rest)

/-! ## Brackets -/

/-- Whether a step stands in brackets. -/
def hasBrackets (spelling : List Char) : Bool := spelling.contains '['

/-- The text up to the bracket that closes `depth` open ones, with the brackets inside, and
the text behind it. -/
def untilClosed : (depth : Nat) → List Char → List Char × List Char
  | _, [] => ([], [])
  | depth, c :: rest =>
    let depth := if c = '[' then depth + 1 else if c = ']' then depth - 1 else depth
    if depth = 0 then ([], rest)
    else
      let (inside, rest) := untilClosed depth rest
      (c :: inside, rest)

/-- Whether a text is a number that may stand in brackets as it is. -/
def isPlace (cs : List Char) : Bool :=
  let digits := if cs.head? == some '+' then cs.drop 1 else cs
  !digits.isEmpty && digits.all Char.isDigit && decide (Reader.valueOf digits < twoTo 64)

/-- What stands in brackets and is neither a number nor starts with a quote; `fuel` bounds
how much of the text is looked at. -/
def subscriptsOf : (fuel : Nat) → List Char → List (List Char)
  | 0, _ => []
  | _, [] => []
  | fuel + 1, '[' :: c :: rest =>
    if c = '"' || c = '\'' then subscriptsOf fuel rest
    else
      let (inside, rest) := untilClosed 1 rest
      (if isPlace (c :: inside) then [] else [c :: inside]) ++ subscriptsOf fuel rest
  | fuel + 1, _ :: rest => subscriptsOf fuel rest

/-- What stands in brackets and is neither a number nor starts with a quote. -/
def subscripts (spelling : List Char) : List (List Char) :=
  subscriptsOf spelling.length spelling

/-- A spelling with a text put in for the first occurrence of a subscript. -/
def putIn (value subscript spelling : List Char) : List Char :=
  match Text.cut? ('[' :: subscript ++ [']']) spelling with
  | some (before, behind) => before ++ '.' :: value ++ behind
  | none => spelling ++ '.' :: value

/-- A spelling with dots in place of brackets. -/
def plain (spelling : List Char) : List Char :=
  [("/", "~1"), ("['", ".\""), ("[\"", ".\""), ("[", "."), ("']", "\""), ("\"]", "\""),
      ("]", "")].foldl
    (fun text (old, new) => Text.replaced old.toList new.toList text) spelling

end Path

/-! ## Trails -/

/-- A variable and what stands behind the first dot, if there is one. -/
structure Trail where
  root : String
  tail : Option (List Char)
deriving DecidableEq, Repr

namespace Trail

/-- The trail that a spelling without brackets stands for. -/
def ofPlain (spelling : List Char) : Trail :=
  match spelling.span (· != '.') with
  | (root, []) => ⟨String.ofList root, none⟩
  | (root, _ :: tail) => ⟨String.ofList root, some tail⟩

/-- Which quotes are open. -/
structure Quotes where
  single : Bool
  double : Bool
deriving DecidableEq, Repr

/-- The quotes that are open behind a character. -/
def Quotes.behind (q : Quotes) (c : Char) : Quotes :=
  if c = '"' then { q with double := !q.double }
  else if c = '\'' then { q with single := !q.single }
  else q

/-- Whether a character ends a name. -/
def Quotes.separates (q : Quotes) (c : Char) : Bool :=
  c == '"' || c == '\'' || (c == '.' && !q.single && !q.double)

/-- The names of the rest of a tail; `escaped` says that a backslash came before, `name` is
what was read of a name, the last character first. -/
def namesFrom (q : Quotes) (escaped : Bool) (name : List Char) : List Char → List (List Char)
  | [] => if name.isEmpty then [] else [name.reverse]
  | c :: rest =>
    if c = '\\' then namesFrom q true (c :: name) rest
    else if !escaped && q.separates c then
      let others := namesFrom (q.behind c) false [] rest
      if name.isEmpty then others else name.reverse :: others
    else namesFrom q false (c :: name) rest

/-- A name without escapes for slashes and tildes. -/
def unescaped : List Char → List Char
  | '~' :: '1' :: rest => '/' :: unescaped rest
  | '~' :: '0' :: rest => '~' :: unescaped rest
  | c :: rest => c :: unescaped rest
  | [] => []

/-- The names behind the variable. -/
def names (t : Trail) : List String :=
  (namesFrom ⟨false, false⟩ false [] (t.tail.getD [])).map fun name =>
    String.ofList (unescaped name)

/-- The place in a list that a name is: a number without a zero in front. -/
def place? (name : String) : Option Nat :=
  match name.toList with
  | [] => none
  | ['0'] => some 0
  | '0' :: _ => none
  | digits => if digits.all Char.isDigit then some (Reader.valueOf digits) else none

/-- The value that a name leads to. -/
def step? (v : Value) (name : String) : Option Value :=
  match v with
  | .object members => members.lookup name
  | .list items => do items[(← place? name)]?
  | _ => none

/-- The value that the names lead to. -/
def walk? (t : Trail) (v : Value) : Option Value := t.names.foldlM step? v

/-- Whether the trail is just a name. -/
def isJust (t : Trail) (name : String) : Bool := t.root == name && t.tail.isNone

end Trail

end Stencil.Template
