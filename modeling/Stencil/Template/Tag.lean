import Stencil.Template.Grammar

/-!
# Tags

What the tags of a template say.  A tag is a keyword, possibly with names and expressions
behind it, which blanks separate from the keyword.  Tags for blocks, macros and other templates are
left out.
-/

namespace Stencil.Template

/-- What a loop runs over. -/
structure LoopHead where
  /-- The name of the keys, if the loop runs over an object. -/
  key : Option String
  /-- The name of the values. -/
  value : String
  container : Expr

/-- A tag. -/
inductive Tag where
  | branch (condition : Expr)
  | otherBranch (condition : Expr)
  | otherwise
  | endBranch
  | loop (head : LoopHead)
  | endLoop
  /-- An assignment, `everywhere` beyond the loop around it. -/
  | assign (everywhere : Bool) (name : String) (value : Expr)
  /-- The end of a loop. -/
  | stop
  /-- The end of one round of a loop. -/
  | skip

namespace Tag

open Reader (blank blanks exactly)

/-- Takes a keyword and at least one blank behind it. -/
def keyword (word : String) : Reader Unit := do
  exactly word
  blank
  blanks

/-- A name that starts here. -/
def name : Reader String := String.ofList <$> Reader.nameChars

/-- The names of a loop: one for the values, or one for the keys and, behind a comma that
sticks to it, one for the values. -/
def loopNames : Reader (Option String × String) := do
  let first ← name
  (do
    exactly ","
    blanks
    return (some first, ← name)) <|>
  return (none, first)

/-- The head of a loop behind the keyword. -/
def loopHead : Reader LoopHead := do
  let (key, value) ← loopNames
  blank
  blanks
  keyword "in"
  return ⟨key, value, ← Grammar.container⟩

/-- An assignment that starts with the given keyword. -/
def assignment (word : String) (everywhere : Bool) : Reader Tag := do
  keyword word
  let name ← name
  Reader.symbol "="
  return .assign everywhere name (← Grammar.assigned)

/-- A tag that is a single word. -/
def bare (word : String) (tag : Tag) : Reader Tag := do
  exactly word
  return tag

/-- A tag that starts here. -/
def start : Reader Tag :=
  (do
    keyword "if"
    return .branch (← Grammar.condition)) <|>
  (do
    keyword "elif"
    return .otherBranch (← Grammar.condition)) <|>
  (do
    keyword "for"
    return .loop (← loopHead)) <|>
  assignment "set" false <|> assignment "set_global" true <|>
  bare "else" .otherwise <|> bare "endif" .endBranch <|> bare "endfor" .endLoop <|>
  bare "break" .stop <|> bare "continue" .skip

/-- The tag between two delimiters. -/
def read? (cs : List Char) : Option Tag :=
  Reader.whole? (do blanks; start) cs

end Tag

end Stencil.Template
