import Stencil.Json.Tree
import Stencil.Keyed

/-!
# JSON values

What a text means: objects are lists of members in the order of their keys, each
key once and with its last value.

## Main definitions

* `Value.write`: the compact text of a value.
* `Value.writeIndented`: the text of a value on several lines.
* `Node.value`: the value of a tree, or its first fault.
* `Value.read`: the value of a text.
-/

namespace Stencil.Json

/-- A JSON value. -/
inductive Value where
  | null
  | boolean (b : Bool)
  | number (n : Number)
  | text (s : String)
  | list (items : List Value)
  | object (members : List (String × Value))
deriving Repr, BEq

namespace Scalar

/-- A scalar as a value. -/
def value : Scalar → Value
  | null => .null
  | boolean b => .boolean b
  | number n => .number n
  | text s => .text s

end Scalar

/-! ## Writing -/

/-- A character inside a JSON text literal: quotes, backslashes and controls are
escaped, nothing else. -/
def writeChar (c : Char) : List Char :=
  if c = '"' then ['\\', '"']
  else if c = '\\' then ['\\', '\\']
  else if c = '\x08' then ['\\', 'b']
  else if c = '\x0c' then ['\\', 'f']
  else if c = '\n' then ['\\', 'n']
  else if c = '\r' then ['\\', 'r']
  else if c = '\t' then ['\\', 't']
  else if c.toNat < 0x10 then "\\u000".toList ++ Text.hexDigits c.toNat
  else if c.toNat < 0x20 then "\\u00".toList ++ Text.hexDigits c.toNat
  else [c]

/-- A text as a JSON literal. -/
def writeText (s : String) : List Char := ['"'] ++ s.toList.flatMap writeChar ++ ['"']

/-- Pieces with commas between them. -/
def commaSeparated : List (List Char) → List Char
  | [] => []
  | piece :: pieces => piece ++ pieces.flatMap (',' :: ·)

namespace Value

mutual

/-- The characters of the compact text of a value. -/
def chars : Value → List Char
  | null => "null".toList
  | boolean b => (toString b).toList
  | number n => n.write
  | text s => writeText s
  | list items => ['['] ++ commaSeparated (itemChars items) ++ [']']
  | object members => ['\x7b'] ++ commaSeparated (memberChars members) ++ ['\x7d']

/-- The characters of each item. -/
def itemChars : List Value → List (List Char)
  | [] => []
  | item :: items => chars item :: itemChars items

/-- The characters of each member. -/
def memberChars : List (String × Value) → List (List Char)
  | [] => []
  | (key, value) :: members => (writeText key ++ [':'] ++ chars value) :: memberChars members

end

/-- The compact text of a value. -/
def write (v : Value) : String := String.ofList v.chars

/-- A line break and two blanks for each level. -/
def lineBreak (level : Nat) : List Char := '\n' :: List.replicate (2 * level) ' '

/-- Pieces on lines of their own between brackets, which stay together around nothing. -/
def bracketed (level : Nat) (opener closer : Char) (pieces : List (List Char)) : List Char :=
  if pieces.isEmpty then [opener, closer]
  else
    [opener] ++ commaSeparated (pieces.map (lineBreak (level + 1) ++ ·)) ++ lineBreak level ++
      [closer]

mutual

/-- The characters of a value on several lines, inside as many brackets as `level` says. -/
def indentedChars (level : Nat) : Value → List Char
  | list items => bracketed level '[' ']' (indentedItemChars (level + 1) items)
  | object members => bracketed level '\x7b' '\x7d' (indentedMemberChars (level + 1) members)
  | v => v.chars

/-- The characters of each item, on several lines. -/
def indentedItemChars (level : Nat) : List Value → List (List Char)
  | [] => []
  | item :: items => indentedChars level item :: indentedItemChars level items

/-- The characters of each member, on several lines. -/
def indentedMemberChars (level : Nat) : List (String × Value) → List (List Char)
  | [] => []
  | (key, value) :: members =>
    (writeText key ++ [':', ' '] ++ indentedChars level value) ::
      indentedMemberChars level members

end

/-- The text of a value with each item and member on a line of its own. -/
def writeIndented (v : Value) : String := String.ofList (v.indentedChars 0)

end Value

/-! ## Reading -/

mutual

/-- The value of a tree, or its first fault. -/
def Node.value : Node → Except Fault Value
  | .broken fault => .error fault
  | .scalar value _ => .ok value.value
  | .list _ items => do return .list (← itemValues items)
  | .object _ members => do return .object (Keyed.ofList (← memberValues members))

/-- The values of list items. -/
def itemValues : List Node → Except Fault (List Value)
  | [] => .ok []
  | item :: items => do
    let value ← item.value
    return value :: (← itemValues items)

/-- The keys and values of members, in the order of the text. -/
def memberValues : List Member → Except Fault (List (String × Value))
  | [] => .ok []
  | .broken fault :: _ => .error fault
  | .entry key _ value _ :: members => do
    let value ← value.value
    return (key, value) :: (← memberValues members)

end

namespace Value

/-- The value of a text. -/
def read (text : String) : Except Fault Value := do
  let tree := TextTree.read text
  let value ← tree.root.value
  match tree.trailing with
  | some fault => .error fault
  | none => return value

end Value

end Stencil.Json
