import Stencil.Json.Value
import Stencil.Text.Quoted

/-!
# Showing values

How a value looks where a template prints it, how a fault describes it, and whether it counts
as true.
-/

namespace Stencil.Json.Value

/-- A template prints fractions without an exponent, and whole ones without a point; of two
shortest decimals equally near it prints the larger one. -/
def printedStyle : RealStyle := ⟨false, none, false, true⟩

mutual

/-- A value as a template prints it: null as nothing, a text as it is, an object without its
members. -/
def printed : Value → String
  | null => ""
  | boolean b => toString b
  | number (.whole n) => toString n
  | number (.real x) => String.ofList (printedStyle.write x)
  | text s => s
  | list items => "[" ++ ", ".intercalate (printedItems items) ++ "]"
  | object _ => "[object]"

/-- The items of a list as they are printed. -/
def printedItems : List Value → List String
  | [] => []
  | item :: items => item.printed :: printedItems items

end

mutual

/-- A value with its form, for a message. -/
def described : Value → String
  | null => "Null"
  | boolean b => "Bool(" ++ toString b ++ ")"
  | number n => "Number(" ++ String.ofList n.write ++ ")"
  | text s => "String(" ++ Text.quoted s ++ ")"
  | list items => "Array [" ++ ", ".intercalate (describedItems items) ++ "]"
  | object members => "Object \x7b" ++ ", ".intercalate (describedMembers members) ++ "\x7d"

/-- The items of a list, each with its form. -/
def describedItems : List Value → List String
  | [] => []
  | item :: items => item.described :: describedItems items

/-- The members of an object, each with the form of its value. -/
def describedMembers : List (String × Value) → List String
  | [] => []
  | (key, value) :: members =>
    (Text.quoted key ++ ": " ++ value.described) :: describedMembers members

end

/-! ## Equality -/

mutual

/-- Whether two values are equal.  A whole number and a fraction never are; fractions are
compared as numbers, so that zero has no sign. -/
def agrees : Value → Value → Bool
  | null, null => true
  | boolean b, boolean c => b == c
  | number (.real x), number (.real y) => x.sameNumber y
  | number (.whole m), number (.whole n) => m == n
  | text s, text t => s == t
  | list items, list others => itemsAgree items others
  | object members, object others => membersAgree members others
  | _, _ => false

/-- Whether lists have equal items. -/
def itemsAgree : List Value → List Value → Bool
  | [], [] => true
  | v :: items, w :: others => v.agrees w && itemsAgree items others
  | _, _ => false

/-- Whether objects have the same keys and equal values. -/
def membersAgree : List (String × Value) → List (String × Value) → Bool
  | [], [] => true
  | (key, v) :: members, (other, w) :: others =>
    key == other && v.agrees w && membersAgree members others
  | _, _ => false

end

/-- Whether a value counts as true: null, zero and whatever is empty do not. -/
def isTruthy : Value → Bool
  | null => false
  | boolean b => b
  | number n => !n.isZero
  | text s => s != ""
  | list items => !items.isEmpty
  | object members => !members.isEmpty

end Stencil.Json.Value
