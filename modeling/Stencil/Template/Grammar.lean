import Stencil.Template.Expression

/-!
# Grammar of expressions

Readers for the expressions in tags.  Where several kinds of expression can start in the same
way, they are tried in a fixed order, and the first one that fits is kept even if what follows
then does not.

Filters bind to a whole sum or concatenation, and `not` binds to a comparison or membership
without parentheses around it.  `and` binds tighter than `or`, and both of them as well as
`not` need a blank behind them.

## Main definitions

* `Grammar.condition`: the most general expression.
* `Grammar.assigned`: an expression or a list.
* `Grammar.container`: what a loop can run over.

## Implementation notes

The readers call each other, so all of them count down one number, which starts far above
what the characters can need.
-/

namespace Stencil.Template

namespace Grammar

open Reader (blanks symbol spacedWord takes repeated separated)

/-! ## Words and operators -/

/-- A truth value.  What follows may stick to it. -/
def boolean : Reader Bool := do
  blanks
  (do
    Reader.exactly "true" <|> Reader.exactly "True"
    return true) <|>
  (do
    Reader.exactly "false" <|> Reader.exactly "False"
    return false)

/-- An operator between numbers. -/
def operator : Reader Operator :=
  (do symbol "+"; return .add) <|> (do symbol "-"; return .subtract) <|>
  (do symbol "*"; return .multiply) <|> (do symbol "/"; return .divide) <|>
  (do symbol "%"; return .remainder)

/-- Whether an operator binds tighter than a sum. -/
def isTight : Operator → Bool
  | .add => false
  | .subtract => false
  | .multiply => true
  | .divide => true
  | .remainder => true

/-- An operator between compared values. -/
def comparisonSign : Reader Comparison :=
  (do symbol "=="; return .equal) <|> (do symbol "!="; return .unequal) <|>
  (do symbol ">="; return .atLeast) <|> (do symbol ">"; return .greater) <|>
  (do symbol "<="; return .atMost) <|> (do symbol "<"; return .less)

/-- A word between conditions. -/
def connective : Reader Connective :=
  (do spacedWord "or"; return .either) <|> (do spacedWord "and"; return .both)

/-! ## Expressions -/

/-- Parts of a concatenation without the empty texts and with neighbouring texts put
together. -/
def folded : List Term → List Term
  | [] => []
  | .text s :: parts =>
    match folded parts with
    | .text t :: others => .text (s ++ t) :: others
    | others => if s = "" then others else .text s :: others
  | part :: parts => part :: folded parts

/-- Parts that are written one after the other, which are one text if all of them are
texts. -/
def concatenation (parts : List Term) : Term :=
  match folded parts with
  | [] => .text ""
  | [.text s] => .text s
  | parts => .concat parts

/-- Values that are combined with operators. -/
def combination (first : Term) (others : List (Operator × Term)) : Term :=
  climb isTight (fun o left right => .combined o (.plain left) (.plain right)) id first others

mutual

/-- A part of a concatenation. -/
def part : (fuel : Nat) → Reader Term
  | 0 => failure
  | fuel + 1 =>
    call fuel <|> (Term.fraction <$> Reader.fraction) <|> (Term.whole <$> Reader.wholeNumber) <|>
    (Term.text <$> Reader.quoted) <|> (Term.path <$> Path.read)

/-- A text or a concatenation. -/
def textTerm : (fuel : Nat) → Reader Term
  | 0 => failure
  | fuel + 1 =>
    (do
      let first ← part fuel
      let others ← repeated do
        symbol "~"
        part fuel
      if others.isEmpty then failure
      return concatenation (first :: others)) <|>
    (Term.text <$> Reader.quoted)

/-- A name with arguments in parentheses. -/
def call : (fuel : Nat) → Reader Term
  | 0 => failure
  | fuel + 1 => do
    let name ← Reader.name
    symbol "("
    let arguments ← separated (argument fuel) <|> return []
    if !arguments.isEmpty then
      let _ ← takes (symbol ",")
    symbol ")"
    return .call name arguments

/-- An argument with its name. -/
def argument : (fuel : Nat) → Reader (String × Expr)
  | 0 => failure
  | fuel + 1 => do
    let name ← Reader.name
    symbol "="
    let value ← logic fuel <|> filteredList fuel
    return (name, value)

/-- A test behind a path. -/
def test : (fuel : Nat) → Reader Term
  | 0 => failure
  | fuel + 1 => do
    let p ← Path.read
    symbol "is"
    (do
      symbol "not"
      testCall fuel true p) <|>
    testCall fuel false p

/-- The name of a test, possibly with arguments in parentheses. -/
def testCall : (fuel : Nat) → (negated : Bool) → Path → Reader Term
  | 0, _, _ => failure
  | fuel + 1, negated, p => do
    let name ← Reader.name
    let arguments ←
      (do
        symbol "("
        let arguments ← separated (logic fuel <|> filteredList fuel)
        symbol ")"
        return arguments) <|>
      return []
    return .test negated p name arguments

/-- One value without filters. -/
def basicValue : (fuel : Nat) → Reader Term
  | 0 => failure
  | fuel + 1 =>
    (do
      symbol "("
      let term ← basic fuel
      symbol ")"
      return term) <|>
    (Term.boolean <$> boolean) <|> test fuel <|> call fuel <|> (Term.path <$> Path.read) <|>
    (Term.fraction <$> Reader.fraction) <|> (Term.whole <$> Reader.wholeNumber)

/-- Values without filters with operators between them. -/
def basic : (fuel : Nat) → Reader Term
  | 0 => failure
  | fuel + 1 => do
    let first ← basicValue fuel
    let others ← repeated do
      let o ← operator
      let next ← basicValue fuel
      return (o, next)
    return combination first others

/-- A filter. -/
def filter : (fuel : Nat) → Reader Filter
  | 0 => failure
  | fuel + 1 => do
    symbol "|"
    (do
      match ← call fuel with
      | .call name arguments => return .mk name arguments
      | _ => failure) <|>
    (do return .mk (← Reader.name) [])

/-- A text or a concatenation, with filters. -/
def textExpr : (fuel : Nat) → Reader Expr
  | 0 => failure
  | fuel + 1 => do
    let term ← textTerm fuel
    return .mk false term (← repeated (filter fuel))

/-- Any other value, with filters. -/
def basicExpr : (fuel : Nat) → Reader Expr
  | 0 => failure
  | fuel + 1 => do
    let term ← basic fuel
    return .mk false term (← repeated (filter fuel))

/-- A list, with filters. -/
def filteredList : (fuel : Nat) → Reader Expr
  | 0 => failure
  | fuel + 1 => do
    symbol "["
    let items ← separated (clause fuel) <|> return []
    let _ ← takes (symbol ",")
    symbol "]"
    return .mk false (.list items) (← repeated (filter fuel))

/-- Values with filters, with operators between them. -/
def arithmetic : (fuel : Nat) → Reader Expr
  | 0 => failure
  | fuel + 1 => do
    let first ← basicExpr fuel
    let others ← repeated do
      let o ← operator
      let next ← basicExpr fuel
      return (o, next)
    return climb isTight (fun o left right => .plain (.combined o left right)) id first others

/-- A comparison or a single value. -/
def comparison : (fuel : Nat) → Reader Expr
  | 0 => failure
  | fuel + 1 => do
    let left ← textExpr fuel <|> arithmetic fuel
    (do
      let c ← comparisonSign
      let right ← textExpr fuel <|> arithmetic fuel
      return .plain (.comparison c left right)) <|>
    return left

/-- A membership. -/
def membership : (fuel : Nat) → Reader Expr
  | 0 => failure
  | fuel + 1 => do
    let item ← textExpr fuel <|> basicExpr fuel
    let negated ← takes (spacedWord "not")
    symbol "in"
    let container ← textExpr fuel <|> filteredList fuel <|>
      ((fun p => Expr.plain (.path p)) <$> Path.read)
    return .plain (.member negated item container)

/-- A condition without `and` and `or`.  The one in parentheses is not negated, whatever
stands in them. -/
def clause : (fuel : Nat) → Reader Expr
  | 0 => failure
  | fuel + 1 =>
    (do
      let negated ← takes (spacedWord "not")
      let e ← membership fuel <|> comparison fuel
      return e.withNegation negated) <|>
    (do
      symbol "("
      let e ← logic fuel
      symbol ")"
      return e.withNegation false)

/-- A condition. -/
def logic : (fuel : Nat) → Reader Expr
  | 0 => failure
  | fuel + 1 => do
    let first ← clause fuel
    let others ← repeated do
      let c ← connective
      let next ← clause fuel
      return (c, next)
    return climb (· == .both) (fun c left right => .plain (.joined c left right)) id first others

end

/-- More than reading characters can need. -/
def fuelFor (cs : List Char) : Nat := 20 * (cs.length + 1)

/-- A condition or value. -/
def condition : Reader Expr := fun cs => logic (fuelFor cs) cs

/-- What can be printed and assigned: a condition, a value or a list. -/
def assigned : Reader Expr := fun cs =>
  (logic (fuelFor cs) <|> filteredList (fuelFor cs)) cs

/-- What a loop can run over: a value or a list. -/
def container : Reader Expr := fun cs =>
  (basicExpr (fuelFor cs) <|> filteredList (fuelFor cs)) cs

end Grammar

end Stencil.Template
