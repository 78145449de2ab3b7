import Stencil.Decimal.Shortest

/-!
# Numbers in JSON texts

A numeral that has neither fraction nor exponent and fits into 64 bits, signed or
unsigned, is a whole number.  Every other numeral is a binary fraction: of its
digits the first ones are collected into a significand of at most 64 bits, the
later digits before the point only count as zeros and those behind the point not
at all.
-/

namespace Stencil.Json

/-- The value of a numeral. -/
inductive Number where
  /-- A whole number of at most 64 bits, signed or unsigned. -/
  | whole (n : Int)
  /-- Any other number. -/
  | real (x : Binary)
deriving DecidableEq, Repr

/-- The value of a decimal digit. -/
def digitValue (c : Char) : Nat := c.toNat - '0'.toNat

/-- A numeral as it is written. -/
structure Numeral where
  negative : Bool := false
  /-- The digits before the point. -/
  whole : List Char := []
  /-- The digits behind the point, if there is one. -/
  fraction : Option (List Char) := none
  /-- The exponent, if there is one. -/
  exponent : Option Int := none

namespace Numeral

/-- The largest significand. -/
def greatestSignificand : Nat := twoTo 64 - 1

/-- A significand with digits put behind it as long as it fits, and the digits that
did not fit. -/
def collect (significand : Nat) : List Char → Nat × List Char
  | [] => (significand, [])
  | c :: rest =>
    let next := significand * 10 + digitValue c
    if next > greatestSignificand then (significand, c :: rest) else collect next rest

/-- The collected digits, as a significand and a power of ten. -/
def parts (n : Numeral) : Nat × Int :=
  let (significand, surplus) := collect 0 n.whole
  let digits := n.fraction.getD []
  let (significand, unused) := collect significand digits
  let places : Int := digits.length - unused.length
  (significand, surplus.length - places + n.exponent.getD 0)

/-- Whether the numeral is a row of digits whose value fits into 64 bits. -/
def isRow (n : Numeral) : Bool :=
  n.fraction.isNone && n.exponent.isNone && (collect 0 n.whole).2.isEmpty

/-- The value of a numeral, none if it is too large.  A minus sign before zero or
before more than 63 bits makes a fraction. -/
def value? (n : Numeral) : Option Number :=
  let (significand, exponent) := n.parts
  if n.isRow && !n.negative then some (.whole significand)
  else if n.isRow && 0 < significand && significand ≤ twoTo 63 then
    some (.whole (-(significand : Int)))
  else
    (Magnitude.ofParts significand exponent).map fun magnitude =>
      .real ⟨n.negative, magnitude⟩

end Numeral

namespace Number

/-- In JSON a fraction keeps a point and is written without an exponent from
`0.00001` up to sixteen places before the point. -/
def realStyle : RealStyle := ⟨true, some (-4, 16), true, false⟩

/-- The number as a binary fraction, rounded if it is a large whole number. -/
def binary : Number → Binary
  | whole n => .ofInt n
  | real x => x

/-- Whether the number is zero. -/
def isZero : Number → Bool
  | whole n => n == 0
  | real x => x.isZero

/-- A number as a JSON text. -/
def write : Number → List Char
  | whole n => (toString n).toList
  | real x => realStyle.write x

end Number

end Stencil.Json
