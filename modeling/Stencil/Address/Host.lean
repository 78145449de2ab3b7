import Stencil.Address.Domain
import Stencil.Address.Percent
import Stencil.Decimal.Power
import Stencil.Text.Split

/-!
# Hosts

The host of an address is a domain, an address of four bytes or one of eight pieces of
sixteen bits.  Each is written in one way only: letters are small, labels are ASCII,
numbers are decimal in the former and hexadecimal in the latter.
-/

namespace Stencil.Address

/-- A host. -/
inductive Host where
  | domain (name : String)
  | fourBytes (value : Nat)
  | eightPieces (pieces : List Nat)
deriving DecidableEq, Repr

namespace Host

/-! ## Addresses of four bytes -/

/-- A number in the given base, none if a character is no digit of it. -/
def numberIn? (base : Nat) (digits : List Char) : Option Nat :=
  digits.foldlM (fun n c => do
    let d ← hexDigit? c
    if d < base then some (n * base + d) else none) 0

/-- A decimal number, an octal one behind a zero or a hexadecimal one behind `0x`. -/
def number? : List Char → Option Nat
  | [] => none
  | '0' :: 'x' :: rest => numberIn? 16 rest
  | '0' :: 'X' :: rest => numberIn? 16 rest
  | '0' :: c :: rest => numberIn? 8 (c :: rest)
  | digits => numberIn? 10 digits

/-- The labels of a domain without an empty one at its end. -/
def numberLabels (name : List Char) : List (List Char) :=
  let labels := Text.splitWhere (· == '.') name
  if labels.getLast? == some [] && labels.length > 1 then labels.dropLast else labels

/-- Whether the last label of a domain is a number. -/
def endsInNumber (name : List Char) : Bool :=
  match (numberLabels name).getLast? with
  | none => false
  | some label =>
    !label.isEmpty && (label.all Char.isDigit || (number? label).isSome)

/-- The value of bytes of which the last one may be a number of several bytes. -/
def fourBytesValue? (numbers : List Nat) : Option Nat :=
  match numbers.getLast? with
  | none => none
  | some last =>
    let leading := numbers.dropLast
    -- One more than the last number can be.
    let bound := twoTo (8 * (4 - leading.length))
    if leading.length > 3 ∨ leading.any (· > 255) ∨ last ≥ bound then none
    else some (leading.foldl (fun value byte => value * 256 + byte) 0 * bound + last)

/-- An address of four bytes. -/
def fourBytes? (name : List Char) : Option Host := do
  let numbers ← (numberLabels name).mapM number?
  return .fourBytes (← fourBytesValue? numbers)

/-! ## Addresses of eight pieces -/

/-- A piece of up to four hexadecimal digits. -/
def piece? (digits : List Char) : Option Nat :=
  if digits.isEmpty || digits.length > 4 then none else numberIn? 16 digits

/-- One number of a dotted tail: up to three digits, no zero in front. -/
def byte? (digits : List Char) : Option Nat :=
  if digits.isEmpty || digits.any (!·.isDigit) || (digits.length > 1 && digits.head? == some '0')
  then none
  else (numberIn? 10 digits).filter (· ≤ 255)

/-- The two pieces of a dotted tail of four numbers. -/
def dottedPieces? (label : List Char) : Option (List Nat) := do
  match ← (Text.splitWhere (· == '.') label).mapM byte? with
  | [a, b, c, d] => return [a * 256 + b, c * 256 + d]
  | _ => none

/-- The pieces between colons, of which only the last may be dotted. -/
def colonPieces? : List (List Char) → Option (List Nat)
  | [] => some []
  | [label] =>
    if label.contains '.' then dottedPieces? label else do return [← piece? label]
  | label :: rest => do return (← piece? label) :: (← colonPieces? rest)

/-- The pieces of a text, none for the empty one. -/
def sidePieces? (side : List Char) : Option (List Nat) :=
  if side.isEmpty then some [] else colonPieces? (Text.splitWhere (· == ':') side)

/-- An address of eight pieces; two colons stand for as many zeros as are missing. -/
def eightPieces? (text : List Char) : Option Host :=
  match Text.cut? [':', ':'] text with
  | none => do
    let pieces ← sidePieces? text
    if pieces.length = 8 then return .eightPieces pieces else none
  | some (left, right) => do
    if left.contains '.' then none
    let left ← sidePieces? left
    let right ← sidePieces? right
    if left.length + right.length > 7 then none
    return .eightPieces (left ++ List.replicate (8 - left.length - right.length) 0 ++ right)

/-- The length of the run of zeros at the start. -/
def zeroRun (pieces : List Nat) : Nat := (pieces.takeWhile (· == 0)).length

/-- Where the first of the longest runs of at least two zeros starts, and its length. -/
def longestRun (pieces : List Nat) : Option (Nat × Nat) :=
  (List.range pieces.length).foldl (fun best start =>
    let length := zeroRun (pieces.drop start)
    if length ≥ 2 && length > (best.map (·.2)).getD 0 then some (start, length) else best) none

/-- Pieces in hexadecimal with colons between them. -/
def hexPieces (pieces : List Nat) : String :=
  ":".intercalate (pieces.map fun n => String.ofList (Nat.toDigits 16 n))

/-! ## Reading and writing -/

/-- A host as it is written in an address. -/
def write : Host → String
  | domain name => name
  | fourBytes n =>
    ".".intercalate ([n / twoTo 24, n / twoTo 16 % 256, n / 256 % 256, n % 256].map toString)
  | eightPieces pieces =>
    match longestRun pieces with
    | some (start, length) =>
      "[" ++ hexPieces (pieces.take start) ++ "::" ++ hexPieces (pieces.drop (start + length)) ++
        "]"
    | none => "[" ++ hexPieces pieces ++ "]"

/-- The host that a text names. -/
def read? (text : List Char) : Option Host :=
  match text with
  | '[' :: rest =>
    if rest.getLast? == some ']' then eightPieces? rest.dropLast else none
  | _ => do
    let name ← textOfBytes? (percentDecode text)
    let ascii ← Domain.ascii? name.toList
    if ascii.isEmpty then none
    else if endsInNumber ascii then fourBytes? ascii
    else return .domain (String.ofList ascii)

end Host

end Stencil.Address
