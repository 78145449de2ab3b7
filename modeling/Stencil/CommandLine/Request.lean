import Stencil.CommandLine.Flag
import Stencil.Run.Options
import Stencil.Text.Split

/-!
# Requests

What the arguments of the command line ask for.

## Main definitions

* `Argument.read`: the flag that one argument spells.
* `Given.scan`: the flags that all arguments give.
* `Request.read`: what they ask for.

## Implementation notes

The arguments are read from the left, and the first thing that ends the reading counts: a
mistake, or a flag that asks for help or for the version.
-/

namespace Stencil.CommandLine

/-- A mistake in the arguments. -/
inductive UsageFault where
  | unknownFlag (argument : String)
  /-- An argument that is neither a flag nor the value of one. -/
  | unexpected (argument : String)
  | lacksValue (flag : Flag)
  /-- A value for a flag that has none. -/
  | takesNoValue (flag : Flag)
  | emptyValue (flag : Flag)
  | repeated (flag : Flag)
  | required (flags : List Flag)
deriving DecidableEq, Repr

/-! ## Arguments -/

/-- An argument on its own. -/
inductive Argument where
  /-- A flag, possibly with a value attached. -/
  | flag (f : Flag) (value : Option String)
  /-- Two dashes: no flags follow. -/
  | endOfFlags
  /-- Anything that does not start like a flag. -/
  | plain (text : String)
deriving DecidableEq, Repr

namespace Argument

/-- A long flag, without its dashes. -/
def readLong (argument : String) (cs : List Char) : Except UsageFault Argument :=
  let (name, value) := match Text.cut? ['='] cs with
    | some (name, value) => (name, some (String.ofList value))
    | none => (cs, none)
  match Flag.ofLongName? (String.ofList name) with
  | none => .error (.unknownFlag argument)
  | some found =>
    if value.isSome && !found.takesValue then .error (.takesNoValue found)
    else .ok (.flag found value)

/-- A short flag, without its dash.  What follows is its value, with or without an equals
sign. -/
def readShort (argument : String) (name : Char) (rest : List Char) :
    Except UsageFault Argument :=
  match Flag.ofShortName? name with
  | none => .error (.unknownFlag argument)
  | some found =>
    if !found.takesValue then .ok (.flag found none)
    else match rest with
      | [] => .ok (.flag found none)
      | '=' :: value => .ok (.flag found (some (String.ofList value)))
      | value => .ok (.flag found (some (String.ofList value)))

/-- One argument. -/
def read (argument : String) : Except UsageFault Argument :=
  match argument.toList with
  | ['-', '-'] => .ok .endOfFlags
  | '-' :: '-' :: cs => readLong argument cs
  | '-' :: name :: rest => readShort argument name rest
  | _ => .ok (.plain argument)

end Argument

/-! ## Flags with their values -/

/-- The flags that were given, with their values. -/
abbrev Given := List (Flag × String)

/-- Why the reading of arguments ends early. -/
inductive Stop where
  | mistake (fault : UsageFault)
  | help
  | version
deriving DecidableEq, Repr

namespace Given

/-- The flags with one more. -/
def add (given : Given) (flag : Flag) (value : String) : Except Stop Given :=
  match flag with
  | .help => .error .help
  | .version => .error .version
  | _ =>
    if (given.lookup flag).isSome then .error (.mistake (.repeated flag))
    else if value.isEmpty && !flag.allowsEmpty then .error (.mistake (.emptyValue flag))
    else .ok (given ++ [(flag, value)])

/-- The flags with those of more arguments.  A flag without a value attached takes the next
argument. -/
def scan (given : Given) : List String → Except Stop Given
  | [] => .ok given
  | argument :: rest => do
    match Argument.read argument with
    | .error fault => .error (.mistake fault)
    | .ok (.plain text) => .error (.mistake (.unexpected text))
    | .ok .endOfFlags =>
      match rest with
      | [] => .ok given
      | text :: _ => .error (.mistake (.unexpected text))
    | .ok (.flag flag (some value)) => (← given.add flag value).scan rest
    | .ok (.flag flag none) =>
      if !flag.takesValue then (← given.add flag "").scan rest
      else match rest with
        | [] => .error (.mistake (.lacksValue flag))
        | next :: rest =>
          match Argument.read next with
          | .ok (.plain value) => (← given.add flag value).scan rest
          | _ => .error (.mistake (.lacksValue flag))

/-- The value of a flag. -/
def get? (given : Given) (flag : Flag) : Option String := given.lookup flag

end Given

/-! ## Requests -/

/-- What the arguments ask for. -/
inductive Request where
  | help
  | version
  | listConverters
  | generate (options : Options)
deriving DecidableEq, Repr

namespace Request

/-- The flags without which there is no run. -/
def requiredFlags : List Flag := [.input, .output, .nameSpace]

/-- The options that flags give, if no required one is missing. -/
def options? (given : Given) : Option Options := do
  let options : Options := ⟨← given.get? .input, ← given.get? .nameSpace, ← given.get? .output,
    none, none, "c#", "", none, "", "Templates"⟩
  return { options with
    username := given.get? .username
    password := given.get? .password
    converter := (given.get? .model).getD options.converter
    outputPrefix := (given.get? .outputPrefix).getD options.outputPrefix
    singleFileName := given.get? .singleFile
    templatePrefix := (given.get? .templatePrefix).getD options.templatePrefix
    templateFolder := (given.get? .templateFolder).getD options.templateFolder }

/-- What flags ask for. -/
def ofGiven (given : Given) : Except UsageFault Request :=
  if (given.get? .listConverters).isSome then .ok .listConverters
  else match options? given with
    | some options => .ok (.generate options)
    | none => .error (.required (requiredFlags.filter fun flag => (given.get? flag).isNone))

/-- What arguments ask for. -/
def read (arguments : List String) : Except UsageFault Request :=
  match Given.scan [] arguments with
  | .ok given => ofGiven given
  | .error .help => .ok .help
  | .error .version => .ok .version
  | .error (.mistake fault) => .error fault

end Request

end Stencil.CommandLine
