import Stencil.Template.Path

/-!
# Expressions

What stands in tags: values with filters, their combinations, and conditions.
-/

namespace Stencil.Template

/-- How two values are compared. -/
inductive Comparison where
  | equal
  | unequal
  | less
  | atMost
  | greater
  | atLeast
deriving DecidableEq, Repr

/-- How two numbers are combined. -/
inductive Operator where
  | add
  | subtract
  | multiply
  | divide
  | remainder
deriving DecidableEq, Repr

/-- How two conditions are combined. -/
inductive Connective where
  | both
  | either
deriving DecidableEq, Repr

mutual

/-- A value before filters. -/
inductive Term where
  | text (s : String)
  | whole (n : Int)
  | fraction (x : Binary)
  | boolean (b : Bool)
  | path (p : Path)
  /-- Parts that are written one after the other. -/
  | concat (parts : List Term)
  | list (items : List Expr)
  | call (name : String) (arguments : List (String × Expr))
  | combined (o : Operator) (left right : Expr)
  | joined (c : Connective) (left right : Expr)
  | comparison (c : Comparison) (left right : Expr)
  | member (negated : Bool) (item container : Expr)
  /-- A test of a path by its name, such as whether there is something. -/
  | test (negated : Bool) (p : Path) (name : String) (arguments : List Expr)

/-- A value with filters, turned around if it is negated. -/
inductive Expr where
  | mk (negated : Bool) (term : Term) (filters : List Filter)

/-- A filter with its arguments. -/
inductive Filter where
  | mk (name : String) (arguments : List (String × Expr))

end

namespace Expr

/-- A value as it is. -/
def plain (term : Term) : Expr := .mk false term []

/-- The value before filters. -/
def term : Expr → Term
  | .mk _ term _ => term

/-- The same value, negated or not as said. -/
def withNegation (negated : Bool) : Expr → Expr
  | .mk _ term filters => .mk negated term filters

end Expr

/-- Operands with the operators between them: those that bind tighter are combined first, and
equal ones from the left.  `before` is what the looser operators on the left make of an
operand. -/
def climb {α ω : Type} (isTight : ω → Bool) (combine : ω → α → α → α) (before : α → α)
    (operand : α) : List (ω × α) → α
  | [] => before operand
  | (o, next) :: others =>
    if isTight o then climb isTight combine before (combine o operand next) others
    else climb isTight combine (combine o (before operand)) next others

end Stencil.Template
