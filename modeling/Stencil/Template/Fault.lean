import Stencil.Template.Expression

/-!
# Faults of evaluation

What can go wrong while a well-formed template is evaluated, with the wording of each case.
-/

namespace Stencil.Template

/-- What a value of a certain form is called. -/
inductive Expected where
  | list
  | text
deriving DecidableEq, Repr

/-- The wording of a form. -/
def Expected.name : Expected → String
  | list => "Vec<Value>"
  | text => "String"

/-- Why a template could not be evaluated. -/
inductive Fault where
  /-- A path leads to nothing; `plain` is the path without brackets if it has any. -/
  | missing (spelling : String) (plain : Option String)
  /-- A loop runs over a value that holds no others. -/
  | notIterable (container : String)
  /-- A loop over an object has no name for the keys. -/
  | lacksKey (container : String)
  /-- A loop over something else than an object has a name for the keys. -/
  | notKeyed (container : String)
  /-- A loop runs over something that has no path. -/
  | noContainer (shown : String)
  /-- A path in brackets leads to nothing. -/
  | inBrackets (spelling : String) (cause : Fault)
  /-- A path in brackets leads to neither a text nor a number. -/
  | notAnIndex (subscript spelling : String)
  /-- The end of a loop or of a round stands outside of all loops. -/
  | outsideLoop (word : String)
  | unknownFilter (name : String)
  | unknownTest (name : String)
  | unknownFunction (name : String)
  /-- A function fails. -/
  | inFunction (name : String) (cause : Fault)
  /-- An argument that a function needs is not given. -/
  | functionArgument (name argument : String)
  /-- An argument of a function is no text. -/
  | functionArgumentForm (name argument shown : String)
  /-- A variable of the environment is asked for that is not set. -/
  | noVariable (name : String)
  /-- A function gives something else than a truth value where one is needed. -/
  | functionNotTruth (name : String)
  /-- A function gives something else than a number where a number is needed. -/
  | functionNotNumber (name : String)
  /-- A filter fails. -/
  | inFilter (name : String) (cause : Fault)
  /-- A filter fails, without a reason. -/
  | filterFailed (name : String)
  /-- A test fails. -/
  | inTest (name : String) (cause : Fault)
  /-- A test without arguments has some. -/
  | testArguments (name : String)
  /-- A filter is used on a value of the wrong form. -/
  | filterInput (name shown : String) (expected : Expected)
  /-- An argument of a filter has the wrong form. -/
  | filterArgument (name argument shown : String) (expected : Expected)
  | noLength
  | noDefault
  /-- A path leads to something else than a number where a number is needed. -/
  | pathNotNumber (spelling : String)
  /-- A filter gives something else than a number where a number is needed. -/
  | resultNotNumber
  | textNotNumber (s : String)
  | booleanNotNumber (b : Bool)
  | concatNotNumber (shown : String)
  | testNotNumber (name : String)
  | conditionNotNumber
  /-- The result for whole numbers needs more than 64 bits. -/
  | outOfBounds (o : Operator) (left right : Int) (signed : Bool)
  /-- A remainder is divided by zero. -/
  | noRemainder (left right : String)
  /-- A comparison by size with something that is no number. -/
  | notComparable
  /-- A path in a concatenation leads to neither a text nor a number. -/
  | notConcatenable (spelling : String)
  /-- A function in a concatenation gives neither a text nor a number. -/
  | callNotConcatenable (name : String)
  /-- Only a text can be looked for in a text or among the keys of an object. -/
  | notAText (shown container : String)
  | notSearchable
deriving DecidableEq, Repr

/-- The sign of an operator. -/
def Operator.sign : Operator → String
  | add => "+"
  | subtract => "-"
  | multiply => "x"
  | divide => "/"
  | remainder => "%"

namespace Fault

/-- The wording of a fault, without what it happened in. -/
def cause : Fault → String
  | missing spelling plain =>
    "Variable \x60" ++ spelling ++ "\x60 not found in context while rendering '__tera_one_off'" ++
      match plain with
      | some plain =>
        ": the evaluated version was \x60" ++ plain ++ "\x60. Maybe the index is out of bounds?"
      | none => ""
  | notIterable container =>
    "Tried to iterate on a container (\x60" ++ container ++ "\x60) that has a unsupported type"
  | lacksKey container =>
    "Tried to iterate using key value on variable \x60" ++ container ++
      "\x60, but it is missing a key"
  | notKeyed container =>
    "Tried to iterate using key value on variable \x60" ++ container ++
      "\x60, but it isn't an object/map"
  | noContainer shown =>
    "Forloop containers have to be an ident or a function call (tried to iterate on '" ++ shown ++
      "')"
  | inBrackets spelling cause =>
    "Variable " ++ spelling ++ " can not be evaluated because: " ++ cause.cause
  | notAnIndex subscript spelling =>
    "Only variables evaluating to String or Number can be used as index (`" ++ subscript ++
      "` of `" ++ spelling ++ "`)"
  | outsideLoop word => "Attempted \x60" ++ word ++ "\x60 while not in \x60for loop\x60"
  | unknownFilter name => "Filter '" ++ name ++ "' not found"
  | unknownTest name => "Test '" ++ name ++ "' not found"
  | unknownFunction name => "Function '" ++ name ++ "' not found"
  | inFunction name cause => "Function call '" ++ name ++ "' failed: " ++ cause.cause
  | functionArgument name argument =>
    "Function \x60" ++ name ++ "\x60 was called without a \x60" ++ argument ++ "\x60 argument"
  | functionArgumentForm name argument shown =>
    "Function \x60" ++ name ++ "\x60 received " ++ argument ++ "=" ++ shown ++ " but \x60" ++
      argument ++ "\x60 can only be a string"
  | noVariable name => "Environment variable \x60" ++ name ++ "\x60 not found"
  | functionNotTruth name =>
    "Function \x60" ++ name ++
      "\x60 was used in a logic operation but is not returning a bool"
  | functionNotNumber name =>
    "Function \x60" ++ name ++
      "\x60 was used in a math operation but is not returning a number"
  | inFilter name cause => "Filter call '" ++ name ++ "' failed: " ++ cause.cause
  | filterFailed name => "Filter call '" ++ name ++ "' failed"
  | inTest name cause => "Test call '" ++ name ++ "' failed: " ++ cause.cause
  | testArguments name =>
    "Tester `" ++ name ++ "` was called with some args whereas this test doesn't take args"
  | filterInput name shown expected =>
    "Filter \x60" ++ name ++ "\x60 was called on an incorrect value: got \x60" ++ shown ++
      "\x60 but expected a " ++ expected.name
  | filterArgument name argument shown expected =>
    "Filter \x60" ++ name ++ "\x60 received an incorrect type for arg \x60" ++ argument ++
      "\x60: got \x60" ++ shown ++ "\x60 but expected a " ++ expected.name
  | noLength =>
    "Filter \x60length\x60 was used on a value that isn't an array, an object, or a string."
  | noDefault => "The \x60default\x60 filter requires a \x60value\x60 argument."
  | pathNotNumber spelling =>
    "Variable \x60" ++ spelling ++ "\x60 was used in a math operation but is not a number"
  | resultNotNumber => "Tried to do math with an expression not resulting in a number"
  | textNotNumber s => "Tried to do math with a string: \x60" ++ s ++ "\x60"
  | booleanNotNumber b => "Tried to do math with a boolean: \x60" ++ toString b ++ "\x60"
  | concatNotNumber shown => "Tried to do math with a string concatenation: " ++ shown
  | testNotNumber name => "Tried to do math with a test: " ++ name
  | conditionNotNumber => "Tried to do math with a condition"
  | outOfBounds o left right signed =>
    toString left ++ " " ++ o.sign ++ " " ++ toString right ++ " results in an out of bounds " ++
      if signed then "i64" else "u64"
  | noRemainder left right => "Tried to do a modulo by zero: " ++ left ++ "/" ++ right
  | notComparable => "Comparison to NaN"
  | notConcatenable spelling =>
    "Tried to concat a value that is not a string or a number from ident " ++ spelling
  | callNotConcatenable name =>
    "Tried to concat a value that is not a string or a number from function call " ++ name
  | notAText shown container =>
    "Tried to check if " ++ shown ++ " is in a " ++ container ++ ", but it isn't a string"
  | notSearchable => "The \x60in\x60 operator only supports strings, arrays and objects."

/-- The fault without what it was caused by. -/
def withoutCause : Fault → Fault
  | inFilter name _ => filterFailed name
  | f => f

/-- The wording of a fault. -/
def message (f : Fault) : String := "Failed to render '__tera_one_off': " ++ f.cause

end Fault

end Stencil.Template
