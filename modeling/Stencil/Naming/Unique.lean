import Stencil.Text.LetterCase

/-!
# Unique names

A scope hands out names that differ from each other.  A name that is taken gets
the first free number behind it: `Pet`, `Pet1`, `Pet2`.

Among a name and its numbered variants there are more than the names taken so
far, so a free one is always found among the first `taken.length + 1`.
-/

namespace Stencil.Naming

/-- The names handed out in one scope, by the keys under which they are told
apart. -/
structure Scope where
  /-- Whether names that differ only by case are the same. -/
  ignoresCase : Bool
  /-- The keys of the names handed out, the latest first. -/
  taken : List String := []

namespace Scope

/-- What a name is told apart by. -/
def key (scope : Scope) (name : String) : String :=
  if scope.ignoresCase then Text.lowerText name else name

/-- The name itself for zero, else the name with the number behind it. -/
def numbered (name : String) (n : Nat) : String :=
  if n = 0 then name else name ++ toString n

/-- The least number whose variant of the name is free. -/
def freeNumber (scope : Scope) (name : String) : Nat :=
  ((List.range (scope.taken.length + 1)).find? fun n =>
    !scope.taken.contains (scope.key (numbered name n))).getD scope.taken.length

/-- The name, or its first free numbered variant, and the scope in which that
name is taken. -/
def claim (scope : Scope) (name : String) : String × Scope :=
  let granted := numbered name (scope.freeNumber name)
  (granted, { scope with taken := scope.key granted :: scope.taken })

/-- Names claimed one after the other. -/
def claimAll (scope : Scope) : List String → List String
  | [] => []
  | name :: names =>
    let (granted, scope) := scope.claim name
    granted :: scope.claimAll names

end Scope

end Stencil.Naming
