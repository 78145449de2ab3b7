import Stencil.Language.Basic
import Stencil.Naming.Words
import Stencil.Text.Alphanumeric

/-!
# C#

Identifiers hold alphanumeric characters of any script and underscores; a keyword
becomes an identifier by a leading `@`, which is not part of the file name.
Members are written in `PascalCase`, parameters in `camelCase`.
-/

namespace Stencil.CSharp

open Stencil.Naming

/-- The reserved words of C#. -/
def keywords : List String := [
  "abstract", "as", "base", "bool", "break", "byte", "case", "catch", "char", "checked",
  "class", "const", "continue", "decimal", "default", "delegate", "do", "double", "else",
  "enum", "event", "explicit", "extern", "false", "finally", "fixed", "float", "for",
  "foreach", "goto", "if", "implicit", "in", "int", "interface", "internal", "is", "lock",
  "long", "namespace", "new", "null", "object", "operator", "out", "override", "params",
  "private", "protected", "public", "readonly", "ref", "return", "sbyte", "sealed",
  "short", "sizeof", "stackalloc", "static", "string", "struct", "switch", "this",
  "throw", "true", "try", "typeof", "uint", "ulong", "unchecked", "unsafe", "ushort",
  "using", "virtual", "void", "volatile", "while"]

/-- Whether the characters spell a reserved word. -/
def isKeyword (name : List Char) : Bool := keywords.contains (String.ofList name)

/-- Whether a character may stand inside an identifier. -/
def isIdentifierChar (c : Char) : Bool := Text.isAlphanumeric c || c == '_'

/-- A reserved word behind an `@`, any other name as it is. -/
def escapeKeyword (name : List Char) : List Char :=
  if isKeyword name then '@' :: name else name

/-- A legal identifier for a name.  A reserved word that already has its `@` stays
as it is. -/
def safeIdentifier : List Char → List Char
  | '@' :: rest =>
    if isKeyword rest then '@' :: rest
    else escapeKeyword (replaceIllegal isIdentifierChar ('@' :: rest))
  | name => escapeKeyword (replaceIllegal isIdentifierChar name)

/-- The identifier of a name in the given casing, or of the name itself if
nothing of it survives the casing. -/
def casedIdentifier (casing : List Char → List Char) (name : List Char) : List Char :=
  if (casing name).isEmpty then safeIdentifier name else safeIdentifier (casing name)

/-- The file name for a class. -/
def fileStem (typeName : List Char) : List Char := typeName.dropWhile (· == '@')

/-- The identifier of a property.  A member may not have the name of the class
around it, so such a one ends in `Value`. -/
def propertyIdentifier (jsonName owner : List Char) : List Char :=
  let name := casedIdentifier pascalCase jsonName
  if name = fileStem owner then name ++ "Value".toList else name

/-- The identifier of an operation. -/
def methodIdentifier (words : List (List Char)) : List Char :=
  safeIdentifier (words.flatMap fun word => capitalize (pascalCase word))

/-- The type that stands for a primitive. -/
def primitiveType (name : String) (format : Option String) : String :=
  match name, format with
  | "integer", some "int64" => "long"
  | "long", _ => "long"
  | "integer", _ => "int"
  | "int", _ => "int"
  | "number", some "double" => "double"
  | "double", _ => "double"
  | "number", _ => "float"
  | "float", _ => "float"
  | "string", some "date" => "DateTime"
  | "string", some "date-time" => "DateTime"
  | "date", _ => "DateTime"
  | "dateTime", _ => "DateTime"
  | "date-time", _ => "DateTime"
  | "string", some "byte" => "byte"
  | "byte", _ => "byte"
  | "string", _ => "string"
  | "boolean", _ => "bool"
  | _, _ => "object"

/-- C# as a target. -/
def language : Language where
  extension := "cs"
  typeIdentifier name := String.ofList (safeIdentifier name.toList)
  propertyIdentifier jsonName owner :=
    String.ofList (propertyIdentifier jsonName.toList owner.toList)
  parameterIdentifier name := String.ofList (casedIdentifier camelCase name.toList)
  methodIdentifier words := String.ofList (methodIdentifier (words.map String.toList))
  fileStem typeName := String.ofList (fileStem typeName.toList)
  plainType
    | .primitive name format => primitiveType name format
    | .void => "void"
    | _ => "object"
  listType element := "List<" ++ element ++ ">"

end Stencil.CSharp
