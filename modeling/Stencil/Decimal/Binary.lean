import Stencil.Decimal.Power

/-!
# Binary fractions

Numbers with a sign, a whole mantissa below `2 ^ 53` and a power of two, which is
what a number that is not a plain integer is kept as.  Everything is exact natural
number arithmetic: a result is computed as a ratio and rounded once, to the nearest
fraction and to the even one of two equally near.

## Main definitions

* `roundRatio`: the nearest fraction to a ratio, none if it is too large.
* `Binary.ofParts`: the fraction for a decimal significand and exponent, scaled by
  rounded powers of ten, so the last bit may differ from the nearest fraction.
-/

namespace Stencil

/-- A magnitude `mantissa * 2 ^ exponent`. -/
structure Magnitude where
  mantissa : Nat
  exponent : Int
deriving DecidableEq, Repr

/-- A signed binary fraction; zero has a sign as well. -/
structure Binary where
  negative : Bool
  magnitude : Magnitude
deriving DecidableEq, Repr

namespace Magnitude

/-- The exponent of the smallest fractions. -/
def leastExponent : Int := -1074

/-- The exponent of the largest fractions. -/
def greatestExponent : Int := 971

/-- Zero. -/
def zero : Magnitude := ⟨0, leastExponent⟩

/-- Whether the magnitude is zero. -/
def isZero (x : Magnitude) : Bool := x.mantissa == 0

/-- A ratio times `2 ^ (-exponent)`, again as a ratio. -/
def scaled (num den : Nat) (exponent : Int) : Nat × Nat :=
  (num * twoTo (-exponent).toNat, den * twoTo exponent.toNat)

/-- The whole number nearest to a ratio, the even one of two. -/
def nearest (num den : Nat) : Nat :=
  let quotient := num / den
  let twice := 2 * (num % den)
  if twice < den ∨ (twice = den ∧ quotient % 2 = 0) then quotient else quotient + 1

/-- The exponent that leaves 53 bits of a ratio before the point, or the least
exponent if that is larger. -/
def exponentFor (num den : Nat) : Int :=
  let guess := (num.log2 : Int) - den.log2 - 52
  let (n, d) := scaled num den guess
  max (if n < d * twoTo 52 then guess - 1 else guess) leastExponent

/-- The magnitude nearest to a ratio, none if that is beyond the largest one. -/
def roundRatio (num den : Nat) : Option Magnitude :=
  if num = 0 then some zero
  else
    let exponent := exponentFor num den
    let (n, d) := scaled num den exponent
    let mantissa := nearest n d
    let (mantissa, exponent) :=
      if mantissa = twoTo 53 then (twoTo 52, exponent + 1) else (mantissa, exponent)
    if exponent > greatestExponent then none else some ⟨mantissa, exponent⟩

/-- A magnitude as a ratio of whole numbers. -/
def ratio (x : Magnitude) : Nat × Nat :=
  (x.mantissa * twoTo x.exponent.toNat, twoTo (-x.exponent).toNat)

/-- A rounded product. -/
def mul (x y : Magnitude) : Option Magnitude :=
  roundRatio (x.ratio.1 * y.ratio.1) (x.ratio.2 * y.ratio.2)

/-- A rounded quotient by a magnitude other than zero. -/
def div (x y : Magnitude) : Option Magnitude :=
  roundRatio (x.ratio.1 * y.ratio.2) (x.ratio.2 * y.ratio.1)

/-- The greatest power of ten that is used in one step of scaling. -/
def greatestPower : Nat := 308

/-- A rounded power of ten, for exponents up to `greatestPower`. -/
def powerOfTen (n : Nat) : Magnitude := (roundRatio (tenTo n) 1).getD zero

/-- A magnitude divided by ten `count` times, in steps of at most `greatestPower`.
After `steps` full steps nothing is left of any magnitude that is divided here. -/
def scaleDown (x : Magnitude) (count : Nat) : (steps : Nat) → Option Magnitude
  | 0 => some zero
  | steps + 1 =>
    if count ≤ greatestPower then x.div (powerOfTen count)
    else if x.isZero then some x
    else do (← x.div (powerOfTen greatestPower)).scaleDown (count - greatestPower) steps

/-- A magnitude multiplied by ten `count` times, none if it grows too large. -/
def scaleUp (x : Magnitude) (count : Nat) : Option Magnitude :=
  if count ≤ greatestPower then x.mul (powerOfTen count)
  else if x.isZero then some x
  else none

/-- The magnitude for `significand * 10 ^ exponent`, none if it is too large. -/
def ofParts (significand : Nat) (exponent : Int) : Option Magnitude := do
  let start ← roundRatio significand 1
  if exponent < 0 then start.scaleDown (-exponent).toNat 4 else start.scaleUp exponent.toNat

end Magnitude

namespace Binary

/-- A fraction as a signed whole number over a whole number. -/
def ratio (x : Binary) : Int × Nat :=
  let (num, den) := x.magnitude.ratio
  (if x.negative then -(num : Int) else num, den)

/-- The fraction nearest to a signed ratio. -/
def roundRatio (num : Int) (den : Nat) : Option Binary :=
  (Magnitude.roundRatio num.natAbs den).map (⟨num < 0, ·⟩)

/-- The fraction nearest to a whole number that is not far beyond 64 bits. -/
def ofInt (n : Int) : Binary := (roundRatio n 1).getD ⟨n < 0, .zero⟩

/-- The rounded sum of two fractions, none if it is too large.  A zero sum is negative only
if both fractions are. -/
def add (x y : Binary) : Option Binary :=
  let num := x.ratio.1 * (y.ratio.2 : Int) + y.ratio.1 * (x.ratio.2 : Int)
  if num = 0 then some ⟨x.negative && y.negative, .zero⟩
  else roundRatio num (x.ratio.2 * y.ratio.2)

/-- The fraction with the other sign. -/
def neg (x : Binary) : Binary := { x with negative := !x.negative }

/-- The rounded product of two fractions, none if it is too large. -/
def mul (x y : Binary) : Option Binary :=
  (x.magnitude.mul y.magnitude).map (⟨x.negative != y.negative, ·⟩)

/-- The rounded quotient by a fraction other than zero, none if it is too large. -/
def div (x y : Binary) : Option Binary :=
  (x.magnitude.div y.magnitude).map (⟨x.negative != y.negative, ·⟩)

/-- What is left of a fraction after taking away another one, which is not zero, as often as
that leaves its sign.  It is exact. -/
def rem (x y : Binary) : Option Binary :=
  let (num, den) := x.magnitude.ratio
  let (otherNum, otherDen) := y.magnitude.ratio
  (Magnitude.roundRatio (num * otherDen % (otherNum * den)) (den * otherDen)).map
    (⟨x.negative, ·⟩)

/-- The whole number that the fraction is, none if it is not whole. -/
def toInt? (x : Binary) : Option Int :=
  let (num, den) := x.ratio
  if num % (den : Int) = 0 then some (num / (den : Int)) else none

/-- Whether the fraction is zero, of either sign. -/
def isZero (x : Binary) : Bool := x.magnitude.isZero

/-- Whether two fractions are the same number: zero has one value under both
signs, and every other number is written in one way. -/
def sameNumber (x y : Binary) : Bool := x == y || (x.isZero && y.isZero)

/-- Whether one fraction is less than another. -/
def less (x y : Binary) : Bool :=
  decide (x.ratio.1 * (y.ratio.2 : Int) < y.ratio.1 * (x.ratio.2 : Int))

end Binary

end Stencil
