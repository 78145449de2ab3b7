import Stencil.Template.Reader
import Stencil.Text.Blank

/-!
# Pieces of a template

A template is cut at its delimiters into texts, printed values, tags and comments.  A dash
beside a delimiter says that blanks next to it are dropped.  Between the tags `raw` and
`endraw` there are no delimiters.

## Main definitions

* `Piece.split?`: the pieces of a template, if every delimiter is closed.
-/

namespace Stencil.Template

/-- On which sides of something in a template blanks are dropped. -/
structure Trim where
  before : Bool
  after : Bool
deriving DecidableEq, Repr

/-- What pairs of delimiters are for. -/
inductive Delimiter where
  | print
  | tag
deriving DecidableEq, Repr

/-- The first character of the closing delimiter. -/
def Delimiter.closer : Delimiter → Char
  | print => '\x7d'
  | tag => '%'

/-- A piece of a template. -/
inductive Piece where
  | text (cs : List Char)
  /-- What stands between two delimiters. -/
  | delimited (delimiter : Delimiter) (trim : Trim) (inside : List Char)
  | comment (trim : Trim)
  /-- A text that is not looked into, between two tags. -/
  | raw (start : Trim) (cs : List Char) (finish : Trim)
deriving DecidableEq, Repr

namespace Piece

/-- What has been read of a piece, the last character first. -/
inductive Part where
  | text (read : List Char)
  | inside (delimiter : Delimiter) (before : Bool) (read : List Char)
  /-- A text literal between delimiters. -/
  | literal (delimiter : Delimiter) (before : Bool) (mark : Char) (read : List Char)
  /-- A comment, which has to hold something. -/
  | comment (before isEmpty : Bool)
  | raw (start : Trim) (read : List Char)
  /-- The rest of a closing tag that was recognised as a whole. -/
  | closing (length : Nat)

/-- The text that was read, if there is any. -/
def textBefore (read : List Char) (pieces : List Piece) : List Piece :=
  if read.isEmpty then pieces else text read.reverse :: pieces

/-- A word between blanks with nothing behind it but the word's end. -/
def afterWord? (word : String) (cs : List Char) : Option (List Char) :=
  let cs := cs.dropWhile Reader.isSpace
  if word.toList.isPrefixOf cs then
    some ((cs.drop word.toList.length).dropWhile Reader.isSpace)
  else none

/-- Whether the characters are one word between blanks. -/
def isOnlyWord (word : String) (cs : List Char) : Bool := afterWord? word cs == some []

/-- The trimming and the length of the tag `endraw`, without the two characters that open
it. -/
def endRaw? (cs : List Char) : Option (Trim × Nat) := do
  let before := cs.head? == some '-'
  let rest ← afterWord? "endraw" (if before then cs.drop 1 else cs)
  let after := rest.head? == some '-'
  match if after then rest.drop 1 else rest with
  | '%' :: '\x7d' :: rest => some (⟨before, after⟩, cs.length - rest.length)
  | _ => none

/-- The piece that ends at a closing delimiter, none for the tag `raw`. -/
def closed? (delimiter : Delimiter) (trim : Trim) (read : List Char) : Option Piece :=
  if delimiter == .tag && isOnlyWord "raw" read.reverse then none
  else some (.delimited delimiter trim read.reverse)

/-- The pieces up to a closing delimiter and what is read next. -/
def close (delimiter : Delimiter) (trim : Trim) (read : List Char) : List Piece × Part :=
  match closed? delimiter trim read with
  | some piece => ([piece], .text [])
  | none => ([], .raw trim [])

/-- What one more character between delimiters makes of the part. -/
def grow (delimiter : Delimiter) (before : Bool) (read : List Char) (c : Char) : Part :=
  if Reader.isQuote c then .literal delimiter before c (c :: read)
  else .inside delimiter before (c :: read)

/-- The pieces of the rest of a template. -/
def scan? : Part → List Char → Option (List Piece)
  | .text read, [] => some (textBefore read [])
  | .text read, '\x7b' :: '\x7b' :: '-' :: rest => do
    return textBefore read (← scan? (.inside .print true []) rest)
  | .text read, '\x7b' :: '\x7b' :: rest => do
    return textBefore read (← scan? (.inside .print false []) rest)
  | .text read, '\x7b' :: '%' :: '-' :: rest => do
    return textBefore read (← scan? (.inside .tag true []) rest)
  | .text read, '\x7b' :: '%' :: rest => do
    return textBefore read (← scan? (.inside .tag false []) rest)
  | .text read, '\x7b' :: '#' :: '-' :: rest => do
    return textBefore read (← scan? (.comment true true) rest)
  | .text read, '\x7b' :: '#' :: rest => do
    return textBefore read (← scan? (.comment false true) rest)
  | .text read, c :: rest => scan? (.text (c :: read)) rest
  | .inside _ _ _, [] => none
  | .inside delimiter before read, '-' :: c :: '\x7d' :: rest =>
    if c = delimiter.closer then do
      let (pieces, part) := close delimiter ⟨before, true⟩ read
      return pieces ++ (← scan? part rest)
    else scan? (.inside delimiter before ('-' :: read)) (c :: '\x7d' :: rest)
  | .inside delimiter before read, c :: '\x7d' :: rest =>
    if c = delimiter.closer then do
      let (pieces, part) := close delimiter ⟨before, false⟩ read
      return pieces ++ (← scan? part rest)
    else scan? (grow delimiter before read c) ('\x7d' :: rest)
  | .inside delimiter before read, c :: rest => scan? (grow delimiter before read c) rest
  | .literal _ _ _ _, [] => none
  | .literal delimiter before mark read, c :: rest =>
    if c = mark then scan? (.inside delimiter before (c :: read)) rest
    else scan? (.literal delimiter before mark (c :: read)) rest
  | .comment _ _, [] => none
  | .comment before isEmpty, '-' :: '#' :: '\x7d' :: rest =>
    if isEmpty then none
    else do return .comment ⟨before, true⟩ :: (← scan? (.text []) rest)
  | .comment before isEmpty, '#' :: '\x7d' :: rest =>
    if isEmpty then none
    else do return .comment ⟨before, false⟩ :: (← scan? (.text []) rest)
  | .comment before _, _ :: rest => scan? (.comment before false) rest
  | .raw _ _, [] => none
  | .raw start read, '\x7b' :: '%' :: rest =>
    match endRaw? rest with
    | some (finish, length) => do
      return .raw start read.reverse finish :: (← scan? (.closing length) rest)
    | none => scan? (.raw start ('\x7b' :: read)) ('%' :: rest)
  | .raw start read, c :: rest => scan? (.raw start (c :: read)) rest
  | .closing _, [] => some []
  | .closing length, _ :: rest =>
    if length ≤ 1 then scan? (.text []) rest else scan? (.closing (length - 1)) rest

/-- The pieces of a template. -/
def split? (template : String) : Option (List Piece) := scan? (.text []) template.toList

end Piece

end Stencil.Template
