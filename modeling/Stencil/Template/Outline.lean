import Stencil.Template.Expression
import Stencil.Text.Quoted

/-!
# Outlines of expressions

How a fault shows an expression that has no path: the kind of every part with what it is made
of.
-/

namespace Stencil.Template

open Stencil.Text (quoted)

/-- A fraction in an outline keeps its point, and has an exponent if it is very large or
small. -/
def outlineStyle : RealStyle := ⟨true, some (-3, 16), false, true⟩

/-- The name of an operator. -/
def Operator.outline : Operator → String
  | add => "Add"
  | subtract => "Sub"
  | multiply => "Mul"
  | divide => "Div"
  | remainder => "Modulo"

/-- The name of a connective. -/
def Connective.outline : Connective → String
  | both => "And"
  | either => "Or"

/-- The name of a comparison. -/
def Comparison.outline : Comparison → String
  | equal => "Eq"
  | unequal => "NotEq"
  | less => "Lt"
  | atMost => "Lte"
  | greater => "Gt"
  | atLeast => "Gte"

/-- A name with fields in braces. -/
def record (name : String) (fields : List (String × String)) : String :=
  name ++ " \x7b " ++ ", ".intercalate (fields.map fun (field, shown) => field ++ ": " ++ shown) ++
    " \x7d"

/-- A name with something in parentheses. -/
def wrapped (name shown : String) : String := name ++ "(" ++ shown ++ ")"

/-- Things in brackets. -/
def row (shown : List String) : String := "[" ++ ", ".intercalate shown ++ "]"

/-- Things in braces. -/
def block (shown : List String) : String := "\x7b" ++ ", ".intercalate shown ++ "\x7d"

/-- A name with named arguments. -/
def callRecord (name : String) (arguments : List String) : String :=
  record "FunctionCall" [("name", quoted name), ("args", block arguments)]

mutual

/-- The outline of a value before filters. -/
def Term.outline : Term → String
  | .text s => wrapped "String" (quoted s)
  | .whole n => wrapped "Int" (toString n)
  | .fraction x => wrapped "Float" (String.ofList (outlineStyle.write x))
  | .boolean b => wrapped "Bool" (toString b)
  | .path p => wrapped "Ident" (quoted p.spelling)
  | .concat parts =>
    wrapped "StringConcat" (record "StringConcat" [("values", row (Term.outlines parts))])
  | .list items => wrapped "Array" (row (Expr.outlines items))
  | .call name arguments => wrapped "FunctionCall" (callRecord name (argumentOutlines arguments))
  | .combined o left right =>
    wrapped "Math" (record "MathExpr"
      [("lhs", left.outline), ("rhs", right.outline), ("operator", o.outline)])
  | .joined c left right =>
    wrapped "Logic" (record "LogicExpr"
      [("lhs", left.outline), ("rhs", right.outline), ("operator", c.outline)])
  | .comparison c left right =>
    wrapped "Logic" (record "LogicExpr"
      [("lhs", left.outline), ("rhs", right.outline), ("operator", c.outline)])
  | .member negated item container =>
    wrapped "In" (record "In"
      [("lhs", item.outline), ("rhs", container.outline), ("negated", toString negated)])
  | .test negated p name arguments =>
    wrapped "Test" (record "Test" [("ident", quoted p.spelling), ("negated", toString negated),
      ("name", quoted name), ("args", row (Expr.outlines arguments))])

/-- The outline of a value with filters. -/
def Expr.outline : Expr → String
  | .mk negated term filters =>
    record "Expr" [("val", term.outline), ("negated", toString negated),
      ("filters", row (Filter.outlines filters))]

/-- The outline of a filter. -/
def Filter.outline : Filter → String
  | .mk name arguments => callRecord name (argumentOutlines arguments)

/-- The outlines of parts of a concatenation. -/
def Term.outlines : List Term → List String
  | [] => []
  | part :: parts => part.outline :: Term.outlines parts

/-- The outlines of expressions. -/
def Expr.outlines : List Expr → List String
  | [] => []
  | e :: es => e.outline :: Expr.outlines es

/-- The outlines of filters. -/
def Filter.outlines : List Filter → List String
  | [] => []
  | f :: fs => f.outline :: Filter.outlines fs

/-- The outlines of arguments with their names. -/
def argumentOutlines : List (String × Expr) → List String
  | [] => []
  | (name, e) :: arguments => (quoted name ++ ": " ++ e.outline) :: argumentOutlines arguments

end

end Stencil.Template
