import Stencil.Template.Fault
import Stencil.Template.Show
import Stencil.Text.LetterCase
import Stencil.Text.Split

/-!
# Filters

What the filters of templates make of a value.  Filters that are not defined here are taken from
the library of a template.
-/

namespace Stencil.Template

open Stencil.Json (Value)

/-- What a filter makes of its arguments and a value. -/
abbrev FilterRule := List (String × Value) → Value → Except Fault Value

namespace FilterRule

/-- A filter that takes texts only. -/
def onText (name : String) (rule : String → Value) : FilterRule
  | _, .text s => .ok (rule s)
  | _, v => .error (.filterInput name v.write .text)

/-- A filter that takes lists only. -/
def onList (name : String) (rule : List Value → Value) : FilterRule
  | _, .list items => .ok (rule items)
  | _, v => .error (.filterInput name v.write .list)

/-- A text with line breaks and tabs in place of the escapes for them. -/
def unescaped : List Char → List Char
  | '\\' :: 'n' :: rest => '\n' :: unescaped rest
  | '\\' :: 't' :: rest => '\t' :: unescaped rest
  | c :: rest => c :: unescaped rest
  | [] => []

/-- The text between joined items. -/
def separator (arguments : List (String × Value)) : Except Fault String :=
  match arguments.lookup "sep" with
  | none => .ok ""
  | some (.text s) => .ok (String.ofList (unescaped s.toList))
  | some v => .error (.filterArgument "truncate" "sep" v.write .text)

/-- The items of a list as they are printed, with a text between them. -/
def join : FilterRule
  | arguments, .list items => do
    return .text ((← separator arguments).intercalate (items.map Value.printed))
  | _, v => .error (.filterInput "join" v.write .list)

/-- The number of items, members or characters. -/
def length : FilterRule
  | _, .list items => .ok (.number (.whole items.length))
  | _, .object members => .ok (.number (.whole members.length))
  | _, .text s => .ok (.number (.whole s.length))
  | _, _ => .error .noLength

/-- The JSON text of a value, on several lines if the argument `pretty` is true. -/
def encode : FilterRule
  | arguments, v =>
    match arguments.lookup "pretty" with
    | some (.boolean true) => .ok (.text v.writeIndented)
    | _ => .ok (.text v.write)

/-- The rule of a filter, if there is one of that name. -/
def find? : String → Option FilterRule
  | "join" => some join
  | "length" => some length
  | "upper" => some (onText "upper" fun s => .text (Text.upperText s))
  | "lower" => some (onText "lower" fun s => .text (Text.lowerText s))
  | "first" => some (onList "first" fun items => items.head?.getD (.text ""))
  | "last" => some (onList "last" fun items => items.getLast?.getD (.text ""))
  | "json_encode" => some encode
  | _ => none

end FilterRule

end Stencil.Template
