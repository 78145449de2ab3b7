import Stencil.Template.Filter

/-!
# Libraries

Beside the filters and tests that are defined here, a template can use others, and it can call
functions. Some of these look outside of the template: at the variables of the environment, at the
time of day, at chance. What they answer is no matter of the template and its view, so they are
given from outside.
-/

namespace Stencil.Template

open Stencil.Json (Value)

/-- What a function makes of its arguments. -/
abbrev FunctionRule := List (String × Value) → Except Fault Value

/-- Whether a test holds of a value, or of there being none, for its arguments. -/
abbrev TestRule := Option Value → List Value → Except Fault Bool

/-- What a template can use by its name. -/
structure Library where
  function? : String → Option FunctionRule
  /-- The filters that are not defined here. -/
  filter? : String → Option FilterRule
  /-- The tests that are not defined here. -/
  test? : String → Option TestRule

/-- The value of a variable of the environment. Where it is not set, the argument `default`
stands for it. -/
def FunctionRule.variable (value? : String → Option String) : FunctionRule := fun arguments =>
  match arguments.lookup "name" with
  | none => .error (.functionArgument "get_env" "name")
  | some (.text name) =>
    match value? name with
    | some value => .ok (.text value)
    | none => (arguments.lookup "default").elim (.error (.noVariable name)) .ok
  | some v => .error (.functionArgumentForm "get_env" "name" v.write)

namespace Library

/-- Nothing. -/
def empty : Library where
  function? _ := none
  filter? _ := none
  test? _ := none

/-- The function that reads variables of the environment. -/
def ofVariables (value? : String → Option String) : Library :=
  { empty with
    function? name := if name = "get_env" then some (.variable value?) else none }

end Library

end Stencil.Template
