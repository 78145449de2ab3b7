import Stencil.Decimal.Power
import Stencil.Text.Split

/-!
# Punycode

The ASCII form of a label with characters beyond ASCII: its ASCII characters, a hyphen,
and then where the others go, in the order of their code points, as numbers with digits
in base 36 whose weights adapt to the numbers written before.

## Main definitions

* `Punycode.encode`: the ASCII form of a label.
* `Punycode.decode?`: the label that has an ASCII form.
-/

namespace Stencil.Address.Punycode

/-- The digit with the given value. -/
def digit (n : Nat) : Char :=
  if n < 26 then Char.ofNat ('a'.toNat + n) else Char.ofNat ('0'.toNat + n - 26)

/-- The threshold at a digit place. -/
def threshold (place bias : Nat) : Nat :=
  if place ≤ bias then 1 else if bias + 26 ≤ place then 26 else place - bias

/-- A number in variable-length digits from a place on. -/
def number (bias place n : Nat) : (fuel : Nat) → List Char
  | 0 => []
  | fuel + 1 =>
    let t := threshold place bias
    if n < t then [digit n]
    else digit (t + (n - t) % (36 - t)) :: number bias (place + 36) ((n - t) / (36 - t)) fuel

/-- The bias after a delta, and whether it was the first one. -/
def adapt (delta count : Nat) (first : Bool) : Nat :=
  let delta := if first then delta / 700 else delta / 2
  go (delta + delta / count) 0 64
where
  go (delta k : Nat) : (fuel : Nat) → Nat
    | 0 => k
    | fuel + 1 =>
      if delta > 455 then go (delta / 35) (k + 36) fuel else k + 36 * delta / (delta + 38)

/-- What is known between two numbers. -/
structure State where
  delta : Nat
  bias : Nat
  handled : Nat
  written : List Char

/-- One character of the label while the code point `next` is put in. -/
def visit (basic next : Nat) (s : State) (c : Char) : State :=
  if c.toNat < next then { s with delta := s.delta + 1 }
  else if c.toNat = next then
    { delta := 0
      bias := adapt s.delta (s.handled + 1) (s.handled == basic)
      handled := s.handled + 1
      written := s.written ++ number s.bias 36 s.delta 64 }
  else s

/-- The label with all code points from `least` on put in, in order. -/
def insertAll (label : List Char) (basic : Nat) (s : State) (least : Nat) :
    List Nat → State
  | [] => s
  | next :: rest =>
    let s := { s with delta := s.delta + (next - least) * (s.handled + 1) }
    let s := label.foldl (visit basic next) s
    insertAll label basic { s with delta := s.delta + 1 } (next + 1) rest

/-- The ASCII form of a label, without the mark in front of it. -/
def encode (label : List Char) : List Char :=
  let basic := label.filter (·.toNat < 0x80)
  let others := ((label.filter (0x80 ≤ ·.toNat)).map Char.toNat).mergeSort.eraseDups
  let start := if basic.isEmpty then [] else basic ++ ['-']
  (insertAll label basic.length ⟨0, 72, basic.length, start⟩ 0x80 others).written

/-! ## Reading back -/

/-- The value of a digit in small letters. -/
def digitValue? (c : Char) : Option Nat :=
  if 'a' ≤ c ∧ c ≤ 'z' then some (c.toNat - 'a'.toNat)
  else if c.isDigit then some (c.toNat - '0'.toNat + 26)
  else none

/-- The bound of all numbers while an ASCII form is read. -/
def numberBound : Nat := twoTo 32

/-- A number in variable-length digits from a place on, and the digits behind it. -/
def number? (bias place weight sum : Nat) : List Char → Option (Nat × List Char)
  | [] => none
  | c :: rest => do
    let d ← digitValue? c
    let sum := sum + d * weight
    if sum ≥ numberBound then none
    let t := threshold place bias
    if d < t then return (sum, rest)
    let weight := weight * (36 - t)
    if weight ≥ numberBound then none
    number? bias (place + 36) weight sum rest

/-- The characters with those put in that the digits say; `index` is where the last one was
put in and `next` its code point, and `fuel` bounds how many there are. -/
def putIn? (characters : List Char) (next bias index : Nat) :
    (fuel : Nat) → List Char → Option (List Char)
  | 0, _ => none
  | fuel + 1, digits =>
    if digits.isEmpty then some characters
    else do
      let (delta, rest) ← number? bias 36 1 0 digits
      let count := characters.length + 1
      let place := index + delta
      if place ≥ numberBound then none
      let next := next + place / count
      if ¬next.isValidChar then none
      let bias := adapt delta count (index == 0)
      let index := place % count
      let characters := characters.take index ++ Char.ofNat next :: characters.drop index
      putIn? characters next bias (index + 1) fuel rest

/-- The label that has an ASCII form, given without the mark in front of it and in small
letters. -/
def decode? (encoded : List Char) : Option (List Char) :=
  match Text.cutLast? '-' encoded with
  | some (c :: basic, digits) => putIn? (c :: basic) 0x80 72 0 (digits.length + 1) digits
  | _ => putIn? [] 0x80 72 0 (encoded.length + 1) encoded

end Stencil.Address.Punycode
