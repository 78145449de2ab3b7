/-!
# Powers of two and ten

Bounds of numbers of a fixed width are powers of two, and decimals are scaled by powers of
ten.
-/

namespace Stencil

/-- A power of two. -/
def twoTo (exponent : Nat) : Nat := Nat.pow 2 exponent

/-- A power of ten. -/
def tenTo (exponent : Nat) : Nat := Nat.pow 10 exponent

end Stencil
