import Stencil.Language.Basic
import Stencil.Naming.Words

/-!
# TypeScript

Identifiers hold ASCII letters and digits, underscores and dollar signs; a
reserved word becomes an identifier by a leading underscore.  Properties keep
their name on the wire and are quoted where it is not an identifier.
-/

namespace Stencil.TypeScript

open Stencil.Naming

/-- The reserved words of TypeScript. -/
def reservedWords : List String := [
  "break", "case", "catch", "class", "const", "continue", "debugger", "default", "delete",
  "do", "else", "enum", "export", "extends", "false", "finally", "for", "function", "if",
  "import", "in", "instanceof", "new", "null", "return", "super", "switch", "this", "throw",
  "true", "try", "typeof", "var", "void", "while", "with", "yield", "let", "static",
  "implements", "interface", "package", "private", "protected", "public", "await", "async"]

/-- Whether a character may start an identifier. -/
def isIdentifierStart (c : Char) : Bool := c.isAlpha || c == '_' || c == '$'

/-- Whether a character may stand inside an identifier. -/
def isIdentifierChar (c : Char) : Bool := c.isAlphanum || c == '_' || c == '$'

/-- Whether a property name has to be quoted: it is not an identifier. -/
def needsQuoting (name : List Char) : Bool :=
  !(name.head?.any isIdentifierStart && name.all isIdentifierChar)

/-- One character inside a string literal. -/
def escapedChar (c : Char) : List Char :=
  if c = '\\' then ['\\', '\\'] else if c = '"' then ['\\', '"'] else [c]

/-- A property name as a key of an object type. -/
def quoteIfNeeded (name : List Char) : List Char :=
  if needsQuoting name then ['"'] ++ name.flatMap escapedChar ++ ['"'] else name

/-- Whether a character separates the parts of a name. -/
def isPartSeparator (c : Char) : Bool := c == '-' || c == '.' || c == ' '

/-- The parts of a name joined, all but the first capitalized. -/
def joinParts : List (List Char) → List Char
  | [] => []
  | part :: parts => part ++ parts.flatMap capitalize

/-- An underscore before a name that starts with a digit. -/
def guardDigit : List Char → List Char
  | [] => []
  | c :: rest => if c.isDigit then '_' :: c :: rest else c :: rest

/-- An underscore before a reserved word. -/
def escapeReserved (name : List Char) : List Char :=
  if reservedWords.contains (String.ofList name) then '_' :: name else name

/-- A legal identifier for a name. -/
def sanitize (name : List Char) : List Char :=
  match (joinParts (Text.piecesWhere isPartSeparator name)).filter isIdentifierChar with
  | [] => "_empty".toList
  | kept => escapeReserved (guardDigit kept)

/-- The words of an operation with hyphens between them. -/
def hyphenate : List (List Char) → List Char
  | [] => []
  | word :: words => word ++ words.flatMap ('-' :: ·)

/-- The type that stands for a primitive. -/
def primitiveType : String → String
  | "integer" => "number"
  | "number" => "number"
  | "int" => "number"
  | "long" => "number"
  | "float" => "number"
  | "double" => "number"
  | "string" => "string"
  | "byte" => "string"
  | "date" => "string"
  | "dateTime" => "string"
  | "date-time" => "string"
  | "boolean" => "boolean"
  | "File" => "Blob"
  | _ => "unknown"

/-- TypeScript as a target. -/
def language : Language where
  extension := "ts"
  typeIdentifier name := String.ofList (sanitize (capitalize name.toList))
  propertyIdentifier jsonName _ := String.ofList (quoteIfNeeded jsonName.toList)
  parameterIdentifier name := String.ofList (sanitize name.toList)
  methodIdentifier words :=
    String.ofList (sanitize (uncapitalize (hyphenate (words.map String.toList))))
  fileStem typeName := typeName
  plainType
    | .primitive name _ => primitiveType name
    | .void => "void"
    | _ => "unknown"
  listType element := element ++ "[]"

end Stencil.TypeScript
