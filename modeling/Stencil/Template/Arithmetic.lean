import Stencil.Template.Fault

/-!
# Arithmetic

What operators make of two numbers.  Whole numbers stay whole as long as both of them fit
into 64 bits with a sign, or both without one; otherwise they are taken as fractions.  A
quotient is always that of fractions, but a whole quotient is a whole number again.  What is
no number, such as a quotient by zero, is none.
-/

namespace Stencil.Template

open Stencil.Json (Number)

namespace Operator

/-- Whether a number is whole and fits into 64 bits with a sign. -/
def isSigned (n : Int) : Bool := -(twoTo 63 : Int) ≤ n && n < twoTo 63

/-- Whether a number is whole and fits into 64 bits without a sign. -/
def isUnsigned (n : Int) : Bool := 0 ≤ n && n < twoTo 64

/-- What an operator makes of whole numbers, none if there is no such whole number. -/
def onWhole? (o : Operator) (left right : Int) : Option Int :=
  match o with
  | add => some (left + right)
  | subtract => some (left - right)
  | multiply => some (left * right)
  | divide => none
  | remainder => if right = 0 then none else some (Int.tmod left right)

/-- A whole number of 64 bits with a sign, as near as possible to another one. -/
def clamped (n : Int) : Int := max (-(twoTo 63 : Int)) (min n (twoTo 63 - 1))

/-- A quotient of fractions; a whole one is a whole number. -/
def quotient? (left right : Binary) : Option Number :=
  if right.isZero then none
  else
    (left.div right).map fun x =>
      match x.toInt? with
      | some n => .whole (clamped n)
      | none => .real x

/-- What an operator makes of fractions. -/
def onReal? (o : Operator) (left right : Binary) : Option Number :=
  match o with
  | add => (left.add right).map .real
  | subtract => (left.add right.neg).map .real
  | multiply => (left.mul right).map .real
  | divide => quotient? left right
  | remainder => if right.isZero then none else (left.rem right).map .real

/-- What an operator makes of two numbers; `left` and `right` show the operands. -/
def apply (o : Operator) (left right : String) (m n : Number) :
    Except Fault (Option Number) :=
  match o, m, n with
  | divide, _, _ => .ok (o.onReal? m.binary n.binary)
  | _, .whole a, .whole b =>
    if isSigned a && isSigned b then
      onWhole (isSigned ·) true a b
    else if isUnsigned a && isUnsigned b then
      onWhole (isUnsigned ·) false a b
    else .ok (o.onReal? m.binary n.binary)
  | _, _, _ => .ok (o.onReal? m.binary n.binary)
where
  /-- What the operator makes of whole numbers if the result fits. -/
  onWhole (fits : Int → Bool) (signed : Bool) (a b : Int) : Except Fault (Option Number) :=
    match o.onWhole? a b with
    | none => .error (.noRemainder left right)
    | some c => if fits c then .ok (some (.whole c)) else .error (.outOfBounds o a b signed)

end Operator

end Stencil.Template
