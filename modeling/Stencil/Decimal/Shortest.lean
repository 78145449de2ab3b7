import Stencil.Decimal.Binary

/-!
# Shortest decimals

The decimal that stands for a binary fraction is the one with the fewest digits
among those that round to the fraction, and the nearest of these.

The reals that round to a fraction form an interval around it, whose ends belong
to it if the mantissa is even.  On each grid of decimals only the two neighbours
of the fraction have to be tried: if any point of the grid lies in the interval,
one of them does.
-/

namespace Stencil

/-- A decimal `digits * 10 ^ exponent`. -/
structure Decimal where
  digits : Nat
  exponent : Int
deriving DecidableEq, Repr

namespace Decimal

/-- The number of decimal digits of a whole number. -/
def digitCount (n : Nat) : Nat := (Nat.toDigits 10 n).length

/-- The least power of ten above a ratio that is not zero. -/
def magnitudeOf (num den : Nat) : Int :=
  if den ≤ num then digitCount (num / den) else 1 - (digitCount ((den - 1) / num) : Int)

/-- A decimal without the zeros at the end of its digits; `fuel` bounds their
number. -/
def trimmed (digits : Nat) (exponent : Int) : (fuel : Nat) → Decimal
  | 0 => ⟨digits, exponent⟩
  | fuel + 1 =>
    if digits % 10 = 0 ∧ digits ≠ 0 then trimmed (digits / 10) (exponent + 1) fuel
    else ⟨digits, exponent⟩

/-- The reals that round to a magnitude, in quarters of its last bit. -/
structure Interval where
  low : Nat
  middle : Nat
  high : Nat
  /-- Whether the ends belong to the interval. -/
  closed : Bool

/-- The interval of a magnitude.  Below a power of two the fractions lie twice as
close. -/
def Interval.of (x : Magnitude) : Interval :=
  let quarters := 4 * x.mantissa
  let below :=
    if x.mantissa = twoTo 52 ∧ x.exponent ≠ Magnitude.leastExponent then 1 else 2
  ⟨quarters - below, quarters, quarters + 2, x.mantissa % 2 == 0⟩

/-- Whether the interval holds the ratio `num / den`, also in quarters. -/
def Interval.holds (i : Interval) (num den : Nat) : Bool :=
  if i.closed then i.low * den ≤ num && num ≤ i.high * den
  else i.low * den < num && num < i.high * den

/-- The nearest decimal on the grid of `10 ^ exponent` that rounds to the magnitude,
if there is one.  Of two equally near the even one is taken, or the larger one if
`tiesUp` says so. -/
def onGrid? (tiesUp : Bool) (x : Magnitude) (exponent : Int) : Option Decimal :=
  let i := Interval.of x
  -- One grid step is `num / den` quarters of the last bit.
  let num := 4 * tenTo exponent.toNat * twoTo (-x.exponent).toNat
  let den := tenTo (-exponent).toNat * twoTo x.exponent.toNat
  let lower := i.middle * den / num
  let upper := lower + 1
  let found (n : Nat) : Bool := i.holds (n * num) den
  if found lower && found upper then
    let toLower := i.middle * den - lower * num
    let toUpper := upper * num - i.middle * den
    if toLower < toUpper ∨ (toLower = toUpper ∧ lower % 2 = 0 ∧ tiesUp = false) then
      some ⟨lower, exponent⟩
    else some ⟨upper, exponent⟩
  else if found lower then some ⟨lower, exponent⟩
  else if found upper then some ⟨upper, exponent⟩
  else none

/-- The shortest decimal that rounds to a magnitude.  Seventeen digits are always
enough. -/
def shortest (tiesUp : Bool) (x : Magnitude) : Decimal :=
  if x.isZero then ⟨0, 0⟩
  else
    let (num, den) := x.ratio
    let top := magnitudeOf num den
    match (List.range 17).findSome? fun n => onGrid? tiesUp x (top - (n + 1 : Nat)) with
    | some found => trimmed found.digits found.exponent 18
    | none => ⟨num / den, 0⟩

end Decimal

/-- How a fraction is written. -/
structure RealStyle where
  /-- Whether a whole number keeps its point and one zero behind it. -/
  keepsPoint : Bool
  /-- The least and the greatest place of the point, counted from the first digit,
  for which no exponent is written; without bounds none ever is. -/
  plainBetween : Option (Int × Int)
  /-- Whether an exponent without a minus sign has a plus sign. -/
  signsExponent : Bool
  /-- Whether of two shortest decimals equally near the larger one is written, and
  not the even one. -/
  tiesUp : Bool

namespace RealStyle

/-- Digits with a point `place` characters behind the first one's left side. -/
def plain (style : RealStyle) (digits : List Char) (place : Int) : List Char :=
  if place ≤ 0 then ['0', '.'] ++ List.replicate (-place).toNat '0' ++ digits
  else if place < digits.length then
    digits.take place.toNat ++ ['.'] ++ digits.drop place.toNat
  else
    digits ++ List.replicate (place.toNat - digits.length) '0' ++
      if style.keepsPoint then ['.', '0'] else []

/-- Digits with a point behind the first one and an exponent. -/
def scientific (style : RealStyle) (digits : List Char) (place : Int) : List Char :=
  let fraction := digits.drop 1
  let power := place - 1
  digits.take 1 ++ (if fraction.isEmpty then [] else '.' :: fraction) ++ ['e'] ++
    (if power < 0 then ['-'] else if style.signsExponent then ['+'] else []) ++
      Nat.toDigits 10 power.natAbs

/-- A fraction in this style. -/
def write (style : RealStyle) (x : Binary) : List Char :=
  let decimal := Decimal.shortest style.tiesUp x.magnitude
  let digits := Nat.toDigits 10 decimal.digits
  let place := digits.length + decimal.exponent
  let isPlain := style.plainBetween.all fun (least, greatest) =>
    least ≤ place && place ≤ greatest
  (if x.negative then ['-'] else []) ++
    if x.isZero then style.plain ['0'] 1
    else if isPlain then style.plain digits place
    else style.scientific digits place

end RealStyle

end Stencil
