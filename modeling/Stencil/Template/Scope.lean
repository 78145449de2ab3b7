import Stencil.Template.Library

/-!
# Scopes

Which values names have at a place in a template, and what there is besides.  Every loop opens a
frame for its rounds, which holds what is assigned in the round and the names that the loop gives;
an assignment in a round ends with it.
-/

namespace Stencil.Template

open Stencil.Json (Value)

/-- A round of a loop. -/
structure Round where
  /-- The name for the keys and the key of this round. -/
  key : Option (String × String)
  /-- The name for the values. -/
  name : String
  value : Value
  /-- How many rounds came before. -/
  index : Nat
  isLast : Bool

namespace Round

/-- What a trail of the word `loop` leads to. -/
def position? (r : Round) (t : Trail) : Option Value :=
  match t.tail.map String.ofList with
  | some "index" => some (.number (.whole (r.index + 1 : Nat)))
  | some "index0" => some (.number (.whole r.index))
  | some "first" => some (.boolean (r.index == 0))
  | some "last" => some (.boolean r.isLast)
  | _ => none

/-- What a trail leads to from the names that a loop gives.  The name for the keys comes
first, then `loop`, then the name for the values. -/
def find? (r : Round) (t : Trail) : Option Value :=
  match r.key.filter fun (name, _) => t.isJust name with
  | some (_, key) => some (.text key)
  | none =>
    if t.root = "loop" then r.position? t
    else if t.root = r.name then t.walk? r.value
    else none

/-- The rounds of a loop over keys and values. -/
def number (name : String) (keyName : Option String) :
    (index : Nat) → List (String × Value) → List Round
  | _, [] => []
  | index, (key, value) :: entries =>
    ⟨keyName.map (·, key), name, value, index, entries.isEmpty⟩ ::
      number name keyName (index + 1) entries

end Round

/-- The names of a round. -/
structure Frame where
  assigned : Written Value
  round : Round

namespace Frame

/-- What a trail leads to from the names of a round. -/
def find? (f : Frame) (t : Trail) : Option Value :=
  ((Written.get? t.root f.assigned).bind t.walk?).or (f.round.find? t)

/-- The names of a round with their values, a later one in place of an equal one before. -/
def entries (f : Frame) : List (String × Value) :=
  f.assigned.entries ++ (f.round.name, f.round.value) ::
    (f.round.key.map fun (name, key) => (name, .text key)).toList

end Frame

/-- All names at a place in a template. -/
structure Scope where
  /-- The rounds around the place, the innermost first. -/
  frames : List Frame
  /-- What is assigned outside of all loops. -/
  assigned : Written Value
  /-- The name and the value that the template is rendered with. -/
  given : String × Value
  /-- What can be used by its name, which is the same at all places. -/
  library : Library

namespace Scope

/-- The scope at the start of a template, with nothing but what is defined here. -/
def start (name : String) (value : Value) : Scope := ⟨[], {}, (name, value), .empty⟩

/-- The scope with another library. -/
def withLibrary (library : Library) (s : Scope) : Scope := { s with library }

/-- What a trail leads to: the innermost frame in which it leads to something counts. -/
def lookup? (s : Scope) (t : Trail) : Option Value :=
  (s.frames.findSome? (·.find? t)).or <|
    ((Written.get? t.root s.assigned).bind t.walk?).or <|
      if t.root = s.given.1 then t.walk? s.given.2 else none

/-- A value as it is put in for a path in brackets. -/
def indexText? : Value → Option (List Char)
  | .text s => some ('"' :: s.toList ++ ['"'])
  | .number n => some n.write
  | _ => none

/-- What a spelling leads to; `fuel` bounds how deep brackets are looked into. -/
def findSpelled (s : Scope) : (fuel : Nat) → List Char → Except Fault Value
  | 0, spelling => .error (.missing (String.ofList spelling) none)
  | fuel + 1, spelling =>
    let shown := String.ofList spelling
    if Path.hasBrackets spelling then do
      let filled ← (Path.subscripts spelling).foldlM (fun filled subscript => do
        match findSpelled s fuel subscript with
        | .error cause => throw (.inBrackets shown cause)
        | .ok v =>
          match indexText? v with
          | some text => return Path.putIn text subscript filled
          | none => throw (.notAnIndex (String.ofList subscript) shown)) spelling
      let plain := Path.plain filled
      match s.lookup? (.ofPlain plain) with
      | some v => return v
      | none => throw (.missing shown (some (String.ofList plain)))
    else
      match s.lookup? (.ofPlain spelling) with
      | some v => .ok v
      | none => .error (.missing shown none)

/-- All names with their values.  Where a name has several, the outer loops count before the
inner ones, and what is assigned outside of all loops counts first. -/
def overview (s : Scope) : Value :=
  .object (Keyed.ofList (s.given :: s.frames.flatMap Frame.entries ++ s.assigned.entries))

/-- The name that stands for the text of all names with their values. -/
def overviewName : String := "__tera_context"

/-- What a path leads to, or the fault that it leads to nothing. -/
def find (s : Scope) (p : Path) : Except Fault Value :=
  if p.spelling = overviewName then .ok (.text s.overview.writeIndented)
  else s.findSpelled (p.spelling.length + 1) p.spelling.toList

/-- The scope with a name assigned outside of all loops. -/
def assignEverywhere (s : Scope) (name : String) (value : Value) : Scope :=
  { s with assigned := Written.set name value s.assigned }

/-- The scope with a name assigned in the innermost round. -/
def assign (s : Scope) (name : String) (value : Value) : Scope :=
  match s.frames with
  | [] => s.assignEverywhere name value
  | frame :: frames =>
    { s with frames := { frame with assigned := Written.set name value frame.assigned } :: frames }

/-- The scope inside a new round. -/
def enter (s : Scope) (round : Round) : Scope := { s with frames := ⟨{}, round⟩ :: s.frames }

/-- The scope behind the innermost round. -/
def leave (s : Scope) : Scope := { s with frames := s.frames.drop 1 }

end Scope

end Stencil.Template
