import Stencil.Text.LetterCase.Table

/-!
# Letter case

Upper and lower case of single characters, which may have several characters as
their image, and lower case of a whole text, where a capital sigma at the end of
a word becomes the final small sigma.
-/

namespace Stencil.Text

/-- The image of a character under one of the case tables. -/
def caseImage (expansions : List (Nat × List Nat)) (runs : List CaseRun) (c : Char) :
    List Char :=
  match expansions.lookup c.toNat with
  | some image => image.map Char.ofNat
  | none =>
    match runs.find? (·.covers c.toNat) with
    | some run => [run.image c.toNat]
    | none => [c]

/-- Upper case of one character. -/
def upper (c : Char) : List Char :=
  if c.toNat < 0x80 then [c.toUpper] else caseImage upperExpansions upperRuns c

/-- Lower case of one character, without a look at its neighbours. -/
def lower (c : Char) : List Char :=
  if c.toNat < 0x80 then [c.toLower] else caseImage lowerExpansions lowerRuns c

theorem upper_of_lt {c : Char} (h : c.toNat < 0x80) : upper c = [c.toUpper] := by
  simp [upper, h]

theorem lower_of_lt {c : Char} (h : c.toNat < 0x80) : lower c = [c.toLower] := by
  simp [lower, h]

/-- Whether a character has a case. -/
def isCased (c : Char) : Bool :=
  if c.toNat < 0x80 then c.isAlpha else casedRanges.contains c

/-- Whether a character is passed over when the end of a word is looked for. -/
def isCaseIgnorable (c : Char) : Bool :=
  caseIgnorableRanges.contains c

/-- Whether a cased character comes first, ignorable ones aside. -/
def startsCased (cs : List Char) : Bool :=
  (cs.dropWhile isCaseIgnorable).head?.any isCased

/-- Lower case of a text: a capital sigma that ends a word becomes the final
small sigma.  `before` holds the characters already passed, the nearest first. -/
def lowerFrom (before : List Char) : List Char → List Char
  | [] => []
  | c :: rest =>
    let image :=
      if c = 'Σ' then if startsCased before && !startsCased rest then ['ς'] else ['σ']
      else lower c
    image ++ lowerFrom (c :: before) rest

/-- Upper case of a whole text. -/
def upperText (s : String) : String :=
  String.ofList (s.toList.flatMap upper)

/-- Lower case of a whole text. -/
def lowerText (s : String) : String :=
  String.ofList (lowerFrom [] s.toList)

end Stencil.Text
