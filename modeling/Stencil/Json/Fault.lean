import Stencil.Json.Number
import Stencil.Text.Quoted

/-!
# Faults of JSON texts

Why a text could not be read, and where.  Lines are counted from one, columns in
bytes from zero.
-/

namespace Stencil.Json

/-- A place in a text: what was passed of it, in lines and in bytes of the last
line. -/
structure Place where
  line : Nat := 1
  column : Nat := 0
deriving DecidableEq, Repr

namespace Place

/-- The place behind a character. -/
def after (place : Place) (c : Char) : Place :=
  if c = '\n' then ⟨place.line + 1, 0⟩ else ⟨place.line, place.column + c.utf8Size⟩

/-- The place behind the first `bytes` bytes of a character, or behind all of them. -/
def within (place : Place) (c : Char) (bytes : Nat) : Place :=
  if c = '\n' then place.after c else ⟨place.line, place.column + min bytes c.utf8Size⟩

/-- The place one byte further on the same line. -/
def next (place : Place) : Place := ⟨place.line, place.column + 1⟩

end Place

/-- A value that is not made of other values. -/
inductive Scalar where
  | null
  | boolean (b : Bool)
  | number (n : Number)
  | text (s : String)
deriving DecidableEq, Repr

namespace Scalar

/-- A scalar where something else was expected. -/
def describe : Scalar → String
  | null => "null"
  | boolean b => "boolean `" ++ toString b ++ "`"
  | number (.whole n) => "integer `" ++ toString n ++ "`"
  | number (.real x) => "floating point `" ++ String.ofList (Number.realStyle.write x) ++ "`"
  | text s => "string " ++ Text.quoted s

end Scalar

/-- What was found where something else was expected. -/
inductive Found where
  | scalar (value : Scalar)
  | list
  | object

/-- What was expected. -/
inductive Expected where
  | text
  | boolean
  | integer
  | list
  | map
  | record (name : String)

namespace Found

def describe : Found → String
  | scalar value => value.describe
  | list => "sequence"
  | object => "map"

end Found

namespace Expected

def describe : Expected → String
  | text => "a string"
  | boolean => "a boolean"
  | integer => "i64"
  | list => "a sequence"
  | map => "a map"
  | record name => "struct " ++ name

end Expected

/-- Why a text could not be read. -/
inductive Reason where
  /-- The text ends where a value or a key has to follow. -/
  | endInValue
  | endInObject
  | endInList
  | endInText
  | noValue
  | badLiteral
  | badNumeral
  | numberTooLarge
  | controlCharacter
  | badEscape
  /-- Half of a surrogate pair is not followed by an escape. -/
  | halfPair
  /-- Two escapes do not make a surrogate pair. -/
  | badPair
  | noColon
  | noListComma
  | noObjectComma
  | keyNotText
  | trailingComma
  | trailingCharacters
  | tooDeep
  | wrongType (found : Found) (expected : Expected)
  | integerTooLarge (n : Int)
  | duplicateField (name : String)
  /-- None of the forms that the named choice can take. -/
  | noVariant (choice : String)

namespace Reason

def describe : Reason → String
  | endInValue => "EOF while parsing a value"
  | endInObject => "EOF while parsing an object"
  | endInList => "EOF while parsing a list"
  | endInText => "EOF while parsing a string"
  | noValue => "expected value"
  | badLiteral => "expected ident"
  | badNumeral => "invalid number"
  | numberTooLarge => "number out of range"
  | controlCharacter => "control character (\\u0000-\\u001F) found while parsing a string"
  | badEscape => "invalid escape"
  | halfPair => "unexpected end of hex escape"
  | badPair => "lone leading surrogate in hex escape"
  | noColon => "expected `:`"
  | noListComma => "expected `,` or `]`"
  | noObjectComma => "expected `,` or `\x7d`"
  | keyNotText => "key must be a string"
  | trailingComma => "trailing comma"
  | trailingCharacters => "trailing characters"
  | tooDeep => "recursion limit exceeded"
  | wrongType found expected =>
    "invalid type: " ++ found.describe ++ ", expected " ++ expected.describe
  | integerTooLarge n => "invalid value: integer `" ++ toString n ++ "`, expected i64"
  | duplicateField name => "duplicate field `" ++ name ++ "`"
  | noVariant choice => "data did not match any variant of untagged enum " ++ choice

end Reason

/-- A reason at a place. -/
structure Fault where
  reason : Reason
  place : Place

namespace Fault

/-- The wording of a fault. -/
def message (fault : Fault) : String :=
  fault.reason.describe ++ " at line " ++ toString fault.place.line ++ " column " ++
    toString fault.place.column

end Fault

end Stencil.Json
