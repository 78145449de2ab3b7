import Stencil.Template.Arithmetic
import Stencil.Template.Outline
import Stencil.Template.Scope

/-!
# Meaning of expressions

An expression has a value where it is printed, assigned or filtered, a truth value where it
is a condition, and a number where it is combined with an operator or compared by size.  The
three are defined together because each of them can need the others of its parts.

## Implementation notes

As a condition, only paths and concatenations look at their filters, and a path that leads to
nothing is false.  The negation of a condition in value position is applied to the condition
and to its value again.  A fault in arithmetic keeps its cause in conditions only.
-/

namespace Stencil.Template

open Stencil.Json (Value Number)

/-- What an expression means in each of the places where it can stand. -/
structure Meaning where
  value : Except Fault Value
  truth : Except Fault Bool
  /-- The number, none for what is no number, such as a quotient by zero. -/
  number : Except Fault (Option Number)

namespace Meaning

/-- A truth value turned around if it is negated. -/
def turn (negated : Bool) (truth : Except Fault Bool) : Except Fault Bool :=
  truth.map (· != negated)

/-- The number of a value that a path leads to. -/
def pathNumber (p : Path) : Value → Except Fault (Option Number)
  | .number n => .ok (some n)
  | _ => .error (.pathNotNumber p.spelling)

/-- The number of a value that a function gives. -/
def callNumber (name : String) : Value → Except Fault (Option Number)
  | .number n => .ok (some n)
  | _ => .error (.functionNotNumber name)

/-- The truth value that a function gives. -/
def callTruth (name : String) : Value → Except Fault Bool
  | .boolean b => .ok b
  | _ => .error (.functionNotTruth name)

/-- Whether a comparison by size holds. -/
def ordered (c : Comparison) (left right : Number) : Bool :=
  let x := left.binary
  let y := right.binary
  match c with
  | .less => x.less y
  | .greater => y.less x
  | .atMost => !y.less x
  | .atLeast => !x.less y
  | .equal => x.sameNumber y
  | .unequal => !x.sameNumber y

/-- Whether a comparison for equality holds, and for its negation.  A number and anything else
are neither equal nor unequal. -/
def equated (negated : Bool) (c : Comparison) (left right : Value) : Bool :=
  match left, right with
  | .number m, .number n => ordered c m n != negated
  | .number _, _ => false
  | _, .number _ => false
  | left, right => ((left.agrees right) == (c == .equal)) != negated

/-- Whether a value is in another one. -/
def isMember (item : Value) : Value → Except Fault Bool
  | .list items => .ok (items.any (·.agrees item))
  | .text s =>
    match item with
    | .text part => .ok (Text.cut? part.toList s.toList).isSome
    | _ => .error (.notAText item.described "string")
  | .object members =>
    match item with
    | .text key => .ok (members.lookup key).isSome
    | _ => .error (.notAText item.described "object")
  | _ => .error .notSearchable

/-- The result of arithmetic as a value. -/
def numberValue (result : Except Fault (Option Number)) : Except Fault Value :=
  match result with
  | .ok (some n) => .ok (.number n)
  | .ok none => .ok (.text "NaN")
  | .error fault => .error fault.withoutCause

/-- The two numbers of a comparison by size. -/
def bothNumbers (left right : Except Fault (Option Number)) : Except Fault (Number × Number) := do
  match ← left, ← right with
  | some m, some n => return (m, n)
  | _, _ => throw .notComparable

/-- The text of a text or number in a concatenation. -/
def writtenText (fault : Fault) : Value → Except Fault String
  | .text t => .ok t
  | .number n => .ok (String.ofList n.write)
  | _ => .error fault

/-- The text of a part of a concatenation that is no call. -/
def partText (s : Scope) : Term → Except Fault String
  | .text t => .ok t
  | .whole n => .ok (toString n)
  | .fraction x => .ok (Value.number (.real x)).printed
  | .path p => do writtenText (.notConcatenable p.spelling) (← s.find p)
  | _ => .ok ""

/-- A part of a concatenation as a fault shows it. -/
def partShown : Term → String
  | .text t => "'" ++ t ++ "'"
  | .path p => p.spelling
  | _ => "unknown"

/-- What a function gives for arguments. -/
def called (s : Scope) (name : String) (arguments : Except Fault (List (String × Value))) :
    Except Fault Value :=
  match s.library.function? name with
  | none => .error (.unknownFunction name)
  | some rule =>
    match arguments >>= rule with
    | .ok v => .ok v
    | .error cause => .error (.inFunction name cause)

/-- Whether a path passes a test. -/
def tested (s : Scope) (p : Path) (name : String) (arguments : Except Fault (List Value)) :
    Except Fault Bool :=
  if name = "defined" || name = "undefined" then
    match arguments with
    | .error cause => .error (.inTest name cause)
    | .ok [] => .ok ((s.find p).toOption.isSome == (name == "defined"))
    | .ok _ => .error (.inTest name (.testArguments name))
  else
    match s.library.test? name with
    | none => .error (.unknownTest name)
    | some rule =>
      match arguments >>= rule (s.find p).toOption with
      | .ok b => .ok b
      | .error cause => .error (.inTest name cause)

/-- A condition in all its places; its value is negated once more by its expression. -/
def condition (truth : Except Fault Bool) : Meaning :=
  ⟨truth.map .boolean, truth, .error .conditionNotNumber⟩

end Meaning

namespace Term

/-- Whether the truth of a value depends on its filters. -/
def truthIsFiltered : Term → Bool
  | .path _ => true
  | .concat _ => true
  | _ => false

/-- Whether a value is a path. -/
def isPath : Term → Bool
  | .path _ => true
  | _ => false

end Term

open Meaning

mutual

/-- The meaning of a value before filters; `negated` turns a condition around. -/
def Term.meaning (s : Scope) (negated : Bool) : Term → Meaning
  | .text t => ⟨.ok (.text t), .ok ((t != "") != negated), .error (.textNotNumber t)⟩
  | .whole n => ⟨.ok (.number (.whole n)), .ok ((n != 0) != negated), .ok (some (.whole n))⟩
  | .fraction x =>
    ⟨.ok (.number (.real x)), .ok ((!x.isZero) != negated), .ok (some (.real x))⟩
  | .boolean b => ⟨.ok (.boolean b), .ok (b != negated), .error (.booleanNotNumber b)⟩
  | .path p =>
    let value := s.find p
    -- Whether a path is true depends on its filters, so its expression settles that.
    ⟨value, .ok false, value >>= pathNumber p⟩
  | .concat parts =>
    ⟨(Term.texts s parts).map fun texts => .text (String.join texts), .ok false,
      .error (.concatNotNumber (" ~ ".intercalate (parts.map partShown)))⟩
  | .list items =>
    let values := Expr.values s items
    ⟨values.map .list, values.map (!·.isEmpty), .error .conditionNotNumber⟩
  | .call name arguments =>
    let value := called s name (Filter.argumentValues s arguments)
    ⟨value, turn negated (value >>= callTruth name), value >>= callNumber name⟩
  | .combined o left right =>
    let result := do
      match ← (left.meaning s).number, ← (right.meaning s).number with
      | some m, some n => o.apply left.outline right.outline m n
      | _, _ => return none
    ⟨numberValue result, turn negated (result.map fun n => n.any (!·.isZero)), result⟩
  | .joined .either left right =>
    condition (turn negated do
      if ← (left.meaning s).truth then return true
      (right.meaning s).truth)
  | .joined .both left right =>
    condition (turn negated do
      if !(← (left.meaning s).truth) then return false
      (right.meaning s).truth)
  | .comparison c left right =>
    if c == .equal || c == .unequal then
      condition do
        return equated negated c (← (left.meaning s).value) (← (right.meaning s).value)
    else
      condition (turn negated do
        let (m, n) ← bothNumbers (left.meaning s).number (right.meaning s).number
        return ordered c m n)
  | .member absent item container =>
    let truth := turn absent do
      isMember (← (item.meaning s).value) (← (container.meaning s).value)
    ⟨truth.map .boolean, turn negated truth, .error .conditionNotNumber⟩
  | .test absent p name arguments =>
    let truth := turn absent (tested s p name (Expr.values s arguments))
    ⟨truth.map .boolean, turn negated truth, .error (.testNotNumber name)⟩

/-- The texts of the parts of a concatenation. -/
def Term.texts (s : Scope) : List Term → Except Fault (List String)
  | [] => .ok []
  | .call name arguments :: parts => do
    let value ← called s name (Filter.argumentValues s arguments)
    let text ← writtenText (.callNotConcatenable name) value
    return text :: (← Term.texts s parts)
  | part :: parts => do
    let text ← partText s part
    return text :: (← Term.texts s parts)

/-- The values of expressions. -/
def Expr.values (s : Scope) : List Expr → Except Fault (List Value)
  | [] => .ok []
  | e :: es => do
    let value ← (e.meaning s).value
    return value :: (← Expr.values s es)

/-- The meaning of a value with filters. -/
def Expr.meaning (s : Scope) : Expr → Meaning
  | .mk negated term filters =>
    let plain := term.meaning s negated
    let filtered (start : Except Fault Value) : Except Fault Value := do
      let v ← Filter.applyAll s filters (← start)
      return if negated then .boolean !v.isTruthy else v
    let value := match term.isPath, plain.value, Filter.fallback? s filters with
      | true, .ok .null, some fallback => filtered fallback
      | true, .error _, some fallback => filtered fallback
      | true, .error fault, none => if negated then .ok (.boolean true) else .error fault
      | _, start, _ => filtered start
    let truth :=
      if term.isPath then
        match value with
        | .ok v => .ok v.isTruthy
        | .error _ => .ok false
      else if term.truthIsFiltered then value.map (·.isTruthy)
      else plain.truth
    let number :=
      if filters.isEmpty then plain.number
      else do
        match ← value with
        | .number n => return some n
        | _ => throw .resultNotNumber
    ⟨value, truth, number⟩

/-- What stands for a missing value, if the first filter says that. -/
def Filter.fallback? (s : Scope) : List Filter → Option (Except Fault Value)
  | .mk name arguments :: _ =>
    if name = "default" then some ((Filter.argument? s "value" arguments).getD (.error .noDefault))
    else none
  | [] => none

/-- The value of an argument; the last one of equal names counts. -/
def Filter.argument? (s : Scope) (sought : String) :
    List (String × Expr) → Option (Except Fault Value)
  | [] => none
  | (name, e) :: arguments =>
    (Filter.argument? s sought arguments).or
      (if name = sought then some (e.meaning s).value else none)

/-- What filters make of a value, one after the other.  `default` and `safe` change nothing
here. -/
def Filter.applyAll (s : Scope) : List Filter → Value → Except Fault Value
  | [], v => .ok v
  | .mk name arguments :: filters, v =>
    if name = "default" || name = "safe" then Filter.applyAll s filters v
    else match (FilterRule.find? name).or (s.library.filter? name) with
      | none => .error (.unknownFilter name)
      | some rule =>
        match Filter.argumentValues s arguments >>= (rule · v) with
        | .ok v => Filter.applyAll s filters v
        | .error cause => .error (.inFilter name cause)

/-- The arguments of a filter or function with their values, the last one first, so that the last of
equal names counts. -/
def Filter.argumentValues (s : Scope) : List (String × Expr) → Except Fault (List (String × Value))
  | [] => .ok []
  | (name, e) :: arguments => do
    let value ← (e.meaning s).value
    return (← Filter.argumentValues s arguments) ++ [(name, value)]

end

end Stencil.Template
