import Stencil.Address.Domain.Composition
import Stencil.Address.Domain.Direction
import Stencil.Address.Domain.Image
import Stencil.Address.Domain.Joining
import Stencil.Address.Punycode

/-!
# Domains

A domain is written in ASCII.  Its characters are first replaced by what they count as and put
together; then each label beyond ASCII is encoded, behind a mark that says so.  A label that
has the mark already has to be the encoding of such a label.

## Main definitions

* `Domain.ascii?`: the ASCII form of a domain.
-/

namespace Stencil.Address.Domain

/-! ## Characters -/

/-- The ASCII characters that a domain may not have. -/
def forbidden : List Char :=
  [' ', '#', '%', '/', ':', '<', '>', '?', '@', '[', '\\', ']', '^', '|']

/-- Whether a character is one of ASCII that a domain may not have. -/
def isForbidden (c : Char) : Bool :=
  c.toNat < 0x20 || c.toNat == 0x7F || forbidden.contains c

/-- Whether a text is in ASCII. -/
def isAscii (cs : List Char) : Bool := cs.all (·.toNat < 0x80)

/-! ## Labels -/

/-- The mark of an encoded label. -/
def encodedMark : List Char := ['x', 'n', '-', '-']

/-- The number of characters that a label may have to be encoded. -/
def greatestLength : Nat := 1000

/-- The number of characters that an encoded label may have behind its mark. -/
def greatestEncodedLength : Nat := 2000

/-- A label and its ASCII form. -/
structure Label where
  characters : List Char
  ascii : List Char

namespace Label

/-- Whether characters are as they count and in composed form, so that they can have been
encoded. -/
def isSettled (cs : List Char) : Bool :=
  cs.all (fun c => c != '.' && image? c == some [c]) && composed cs == cs

/-- The label that an encoded one stands for. -/
def ofEncoded? (label : List Char) : Option Label := do
  let encoded := label.drop encodedMark.length
  if !isAscii label || encoded.isEmpty || encoded.getLast? == some '-' ||
      encoded.length > greatestEncodedLength then none
  let characters ← Punycode.decode? encoded
  if isSettled characters then return ⟨characters, label⟩ else none

/-- A label of characters that are in composed form. -/
def ofComposed? (label : List Char) : Option Label :=
  if encodedMark.isPrefixOf label then ofEncoded? label
  else if isAscii label then some ⟨label, label⟩
  else if label.length > greatestLength then none
  else some ⟨label, encodedMark ++ Punycode.encode label⟩

/-- Whether a domain may have the label, as far as its neighbours do not matter: it may not
have a forbidden character, start with a mark or have a joiner out of place. -/
def isAllowed (label : Label) : Bool :=
  !label.characters.any isForbidden &&
    (isAscii label.characters ||
      (!label.characters.head?.any Text.isMark && joinersFit [] label.characters))

end Label

/-! ## Domains -/

/-- Labels with dots between them. -/
def dotted (labels : List (List Char)) : List Char :=
  match labels with
  | [] => []
  | label :: rest => label ++ rest.flatMap ('.' :: ·)

/-- The ASCII form of a domain, none if there is no such domain. -/
def ascii? (name : List Char) : Option (List Char) := do
  let images ← name.mapM image?
  let labels ← (Text.splitWhere (· == '.') (composed images.flatten)).mapM Label.ofComposed?
  if labels.all Label.isAllowed && directionsFit (labels.map (·.characters)) then
    return dotted (labels.map (·.ascii))
  else none

end Stencil.Address.Domain
