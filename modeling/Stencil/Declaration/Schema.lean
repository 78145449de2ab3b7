import Stencil.Json.Value

/-!
# Reading structures out of JSON trees

A reader takes a tree from left to right and stops at the first thing that is
wrong: a fault of the text or a value of the wrong type, whichever comes first.

A complaint that is raised about a member as a whole has no place of its own.  It
gets the place that the object keeps for this member.

## Main definitions

* `Reader`, `optional`, `orDefault`, `listOf`, `mapOf`: readers of values.
* `Field`: how one member is read, and where what is read belongs in the structure.
* `Schema`: how a structure is read, as the list of its fields.
* `Schema.read`: the reader of a structure, from the readers of its fields.
-/

namespace Stencil.Declaration

open Stencil.Json

/-- Why a tree could not be read; a place is filled in later if there is none. -/
structure Complaint where
  reason : Reason
  place : Option Place

namespace Complaint

/-- The complaint at the given place unless it has a place. -/
def settledAt (place : Place) (c : Complaint) : Complaint :=
  ⟨c.reason, c.place.orElse fun _ => place⟩

/-- The fault that the complaint amounts to. -/
def toFault (c : Complaint) : Fault := ⟨c.reason, c.place.getD {}⟩

end Complaint

/-- What reading leads to. -/
abbrev Reading (α : Type) := Except Complaint α

/-- A way to read a value out of a tree. -/
abbrev Reader (α : Type) := Node → Reading α

/-- A fault of the text. -/
def faulty {α : Type} (fault : Fault) : Reading α := .error ⟨fault.reason, some fault.place⟩

/-- A value of the wrong type.  A scalar is reported behind it, a list or an object
in front of it. -/
def mismatch {α : Type} (expected : Expected) : Node → Reading α
  | .broken fault => faulty fault
  | .scalar value stop => .error ⟨.wrongType (.scalar value) expected, some stop⟩
  | .list start _ => .error ⟨.wrongType .list expected, some start⟩
  | .object start _ => .error ⟨.wrongType .object expected, some start⟩

/-- A text. -/
def text : Reader String
  | .scalar (.text s) _ => .ok s
  | node => mismatch .text node

/-- A truth value. -/
def boolean : Reader Bool
  | .scalar (.boolean b) _ => .ok b
  | node => mismatch .boolean node

/-- A whole number of at most 64 bits with its sign. -/
def integer : Reader Int
  | .scalar (.number (.whole n)) stop =>
    if -(twoTo 63 : Int) ≤ n ∧ n < (twoTo 63 : Int) then .ok n
    else .error ⟨.integerTooLarge n, some stop⟩
  | node => mismatch .integer node

/-- Any value. -/
def anything : Reader Value := fun node =>
  match node.value with
  | .ok value => .ok value
  | .error fault => faulty fault

/-- A value or `null`. -/
def optional {α : Type} (read : Reader α) : Reader (Option α)
  | .scalar .null _ => .ok none
  | node => do return some (← read node)

/-- A value or `null`, which reads as a default. -/
def orDefault {α : Type} (default : α) (read : Reader α) : Reader α
  | .scalar .null _ => .ok default
  | node => read node

/-- Every item of a list, in order. -/
def items {α : Type} (read : Reader α) : List Node → Reading (List α)
  | [] => .ok []
  | item :: rest => do
    let value ← read item
    return value :: (← items read rest)

/-- A list. -/
def listOf {α : Type} (read : Reader α) : Reader (List α)
  | .list _ nodes => items read nodes
  | node => mismatch .list node

/-- A value of a member: complaints about it get the member's place. -/
def settled {α : Type} (place : Place) : Reading α → Reading α
  | .ok value => .ok value
  | .error complaint => .error (complaint.settledAt place)

/-- Every member of an object that maps names to values.  A repeated name keeps its
place and gets its last value. -/
def entries {α : Type} (read : Reader α) (map : Written α) :
    List Member → Reading (Written α)
  | [] => .ok map
  | .broken fault :: _ => faulty fault
  | .entry key _ value atValue :: rest => do
    let value ← settled atValue (read value)
    entries read (map.set key value) rest

/-- An object that maps names to values. -/
def mapOf {α : Type} (read : Reader α) : Reader (Written α)
  | .object _ members => entries read {} members
  | node => mismatch .map node

/-- A field of a structure: the member with the key of the field is read, and what is read is put
into a part of the structure. -/
structure Field (α : Type) where
  key : String
  /-- What the part holds. -/
  Content : Type
  /-- What the part holds if the member is null or if there is none. -/
  default : Content
  read : Reader Content
  get : α → Content
  set : α → Content → α
  read_null : ∀ stop, read (.scalar .null stop) = .ok default
  get_set : ∀ record content, get (set record content) = content
  set_get : ∀ record, set record (get record) = record

namespace Field

variable {α β : Type}

/-- A field that holds nothing if its member is null or absent. -/
@[reducible] def optional (key : String) (read : Reader β) (get : α → Option β)
    (set : α → Option β → α)
    (get_set : ∀ record content, get (set record content) = content := by exact fun _ _ => rfl)
    (set_get : ∀ record, set record (get record) = record := by exact fun _ => rfl) :
    Field α where
  key
  Content := Option β
  default := none
  read := Declaration.optional read
  get
  set
  read_null _ := rfl
  get_set
  set_get

/-- A field that holds a default if its member is null or absent. -/
@[reducible] def orDefault (key : String) (default : β) (read : Reader β) (get : α → β)
    (set : α → β → α)
    (get_set : ∀ record content, get (set record content) = content := by exact fun _ _ => rfl)
    (set_get : ∀ record, set record (get record) = record := by exact fun _ => rfl) :
    Field α where
  key
  Content := β
  default
  read := Declaration.orDefault default read
  get
  set
  read_null _ := rfl
  get_set
  set_get

/-- A structure with a member read into the part of the field. -/
def readInto (f : Field α) (record : α) : Reader α := fun node => do
  return f.set record (← f.read node)

/-- Two fields have different keys, and none of them changes the part of the other one. -/
def Apart (f g : Field α) : Prop :=
  f.key ≠ g.key ∧ (∀ record content, g.get (f.set record content) = g.get record) ∧
    ∀ record content, f.get (g.set record content) = f.get record

end Field

/-- How a structure is read: its fields, and the part in which it keeps the members that it does
not know. -/
structure Schema (α : Type) where
  /-- The name of the structure in complaints. -/
  name : String
  /-- The fields, none of which has to do with another one or with the unknown members. -/
  table : List (Field α)
  /-- The structure without members. -/
  empty : α
  unknown : α → Keyed Value
  setUnknown : α → Keyed Value → α
  apart : table.Pairwise Field.Apart := by simp [Field.Apart]
  get_empty : ∀ f ∈ table, f.get empty = f.default := by simp
  get_setUnknown : ∀ f ∈ table, ∀ record members,
    f.get (setUnknown record members) = f.get record := by simp
  unknown_set : ∀ f ∈ table, ∀ record content,
    unknown (f.set record content) = unknown record := by simp
  unknown_empty : unknown empty = [] := by rfl
  unknown_setUnknown : ∀ record members, unknown (setUnknown record members) = members := by
    exact fun _ _ => rfl

namespace Schema

variable {α : Type}

/-- The keys of the fields. -/
def fields (schema : Schema α) : List String := schema.table.map Field.key

/-- The structure with the member of a known key read into it. -/
def field (schema : Schema α) (record : α) (key : String) : Reader α :=
  match schema.table.find? (·.key = key) with
  | some f => f.readInto record
  | none => fun _ => .ok record

/-- The structure with a member that it does not know. -/
def keep (schema : Schema α) (record : α) (key : String) (value : Value) : α :=
  schema.setUnknown record ((schema.unknown record).set key value)

/-- Members read into a structure, of which the keys `seen` are known already.  A
known member may not come twice, which is noticed as soon as its key is read. -/
def members (schema : Schema α) (seen : List String) (record : α) :
    List Member → Reading α
  | [] => .ok record
  | .broken fault :: _ => faulty fault
  | .entry key atKey node atValue :: rest =>
    if key ∈ schema.fields then
      if key ∈ seen then .error ⟨.duplicateField key, some atKey⟩
      else do
        let record ← settled atValue (schema.field record key node)
        members schema (key :: seen) record rest
    else do
      let value ← anything node
      members schema seen (schema.keep record key value) rest

/-- A structure, which is always an object. -/
def read (schema : Schema α) : Reader α
  | .object _ nodes => schema.members [] schema.empty nodes
  | node => mismatch (.record schema.name) node

end Schema

end Stencil.Declaration
