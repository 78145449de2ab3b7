/-!
# Reading bytes that need not be a text

Bytes are read as UTF-8.  A character that breaks off, and a byte that can start none, reads
as one replacement character.
-/

namespace Stencil.Text

/-- The replacement character. -/
def replacement : Char := '\uFFFD'

/-- A character that has been read in part. -/
structure PartialChar where
  /-- The number of bytes that are missing. -/
  missing : Nat
  /-- The least next byte. -/
  least : Nat
  /-- The greatest next byte. -/
  greatest : Nat
  /-- The bits read so far. -/
  bits : Nat

/-- What a byte between characters starts: a whole character, a part of one, or nothing. -/
def startChar (b : Nat) : Option (Char ⊕ PartialChar) :=
  if b < 0x80 then some (.inl (Char.ofNat b))
  else if 0xC2 ≤ b ∧ b ≤ 0xDF then some (.inr ⟨1, 0x80, 0xBF, b - 0xC0⟩)
  else if b = 0xE0 then some (.inr ⟨2, 0xA0, 0xBF, 0⟩)
  else if b = 0xED then some (.inr ⟨2, 0x80, 0x9F, b - 0xE0⟩)
  else if 0xE1 ≤ b ∧ b ≤ 0xEF then some (.inr ⟨2, 0x80, 0xBF, b - 0xE0⟩)
  else if b = 0xF0 then some (.inr ⟨3, 0x90, 0xBF, 0⟩)
  else if 0xF1 ≤ b ∧ b ≤ 0xF3 then some (.inr ⟨3, 0x80, 0xBF, b - 0xF0⟩)
  else if b = 0xF4 then some (.inr ⟨3, 0x80, 0x8F, b - 0xF0⟩)
  else none

/-- The characters of the rest of some bytes, of which the one before is read in part. -/
def lossyFrom : Option PartialChar → List UInt8 → List Char
  | none, [] => []
  | some _, [] => [replacement]
  | none, b :: rest =>
    match startChar b.toNat with
    | some (.inl c) => c :: lossyFrom none rest
    | some (.inr part) => lossyFrom (some part) rest
    | none => replacement :: lossyFrom none rest
  | some part, b :: rest =>
    if part.least ≤ b.toNat ∧ b.toNat ≤ part.greatest then
      let bits := part.bits * 64 + (b.toNat - 0x80)
      if part.missing = 1 then Char.ofNat bits :: lossyFrom none rest
      else lossyFrom (some ⟨part.missing - 1, 0x80, 0xBF, bits⟩) rest
    else
      -- The byte breaks off the character and may start another one.
      match startChar b.toNat with
      | some (.inl c) => replacement :: c :: lossyFrom none rest
      | some (.inr next) => replacement :: lossyFrom (some next) rest
      | none => replacement :: replacement :: lossyFrom none rest

/-- The text that bytes spell, as far as they do. -/
def lossy (bytes : List UInt8) : String := String.ofList (lossyFrom none bytes)

end Stencil.Text
