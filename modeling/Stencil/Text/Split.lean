/-!
# Splitting and joining

A text is cut at every separator into pieces, of which there is always one more
than there are separators.
-/

namespace Stencil.Text

/-- The pieces between the characters that satisfy `isSeparator`, empty ones
included. -/
def splitWhere (isSeparator : Char → Bool) : List Char → List (List Char)
  | [] => [[]]
  | c :: rest =>
    if isSeparator c then [] :: splitWhere isSeparator rest
    else
      match splitWhere isSeparator rest with
      | [] => [[c]]
      | piece :: pieces => (c :: piece) :: pieces

theorem splitWhere_ne_nil (isSeparator : Char → Bool) (cs : List Char) :
    splitWhere isSeparator cs ≠ [] := by
  cases cs with
  | nil => simp [splitWhere]
  | cons c rest =>
    simp only [splitWhere]
    split
    · simp
    · split <;> simp

/-- The pieces that hold something. -/
def piecesWhere (isSeparator : Char → Bool) (cs : List Char) : List (List Char) :=
  (splitWhere isSeparator cs).filter fun piece => !piece.isEmpty

/-- The text before the first occurrence of `needle` and the text after it. -/
def cut? (needle : List Char) : List Char → Option (List Char × List Char)
  | [] => if needle.isEmpty then some ([], []) else none
  | c :: rest =>
    if needle.isPrefixOf (c :: rest) then some ([], (c :: rest).drop needle.length)
    else (cut? needle rest).map fun (before, after) => (c :: before, after)

/-- The text with `new` in place of every occurrence of `old`, which are found from the left;
`fuel` bounds their number. -/
def replacedUpTo (old new : List Char) : (fuel : Nat) → List Char → List Char
  | 0, cs => cs
  | fuel + 1, cs =>
    match cut? old cs with
    | some (before, after) => before ++ new ++ replacedUpTo old new fuel after
    | none => cs

/-- The text with `new` in place of every occurrence of `old`, which is not empty. -/
def replaced (old new cs : List Char) : List Char := replacedUpTo old new cs.length cs

/-- The text before the last `mark` and the text after it. -/
def cutLast? (mark : Char) : List Char → Option (List Char × List Char)
  | [] => none
  | c :: rest =>
    match cutLast? mark rest with
    | some (before, after) => some (c :: before, after)
    | none => if c = mark then some ([], rest) else none

end Stencil.Text
