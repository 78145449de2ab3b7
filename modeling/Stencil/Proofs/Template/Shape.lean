import Stencil.Proofs.Template.Lookup

/-!
# Shapes

What is known of a value before it is there: which members it has and which of them are lists, all
the way down. The shape of a scope says that of every name at a place in a template, and which
names there are, so that what a trail leads to is known as well.

## Main definitions

* `Shape.Fits shape v`: a value has the shape
* `ScopeShape.Fits shape s`: the names of a scope have values of their shapes
* `ScopeShape.path? s p`: the shape that a path leads to

## Main results

* `Shape.fits_record`: a record has the shape of its members
* `ScopeShape.Fits.exists_find`: what a path leads to is of the shape that it leads to
-/

namespace Stencil.Template

open Json (Value)

/-! ## Shapes of values -/

/-- What is known of a value. -/
inductive Shape where
  | anything
  /-- A list of values of one shape. -/
  | list (items : Shape)
  /-- An object with a member; `others` is what is known of the object besides. -/
  | member (name : String) (value others : Shape)
deriving DecidableEq, Repr

namespace Shape

/-- An object with members of some shapes. -/
def record (members : List (String × Shape)) : Shape :=
  members.foldr (fun (name, value) others => .member name value others) .anything

/-- A value has a shape. -/
inductive Fits : Shape → Value → Prop
  | anything (v : Value) : Fits .anything v
  | list {items : Shape} {vs : List Value} (hitems : ∀ v ∈ vs, Fits items v) :
      Fits (.list items) (.list vs)
  | member {name : String} {value others : Shape} {members : Keyed Value} {v : Value}
      (hfound : members.lookup name = some v) (hvalue : Fits value v)
      (hothers : Fits others (.object members)) :
      Fits (.member name value others) (.object members)

@[simp]
theorem fits_anything (v : Value) : Fits .anything v := .anything v

@[simp]
theorem fits_list_iff {items : Shape} {vs : List Value} :
    (list items).Fits (.list vs) ↔ ∀ v ∈ vs, items.Fits v := by
  constructor
  · rintro (_ | hitems)
    exact hitems
  · exact .list

/-- An object has the shape of those of its members that are known. -/
theorem fits_record_of_lookup {shapes : List (String × Shape)} {known : List (String × Value)}
    (h : List.Forall₂ (Written.Corresponds Fits) shapes known) {members : Keyed Value}
    (hlookup : ∀ member ∈ known, members.lookup member.1 = some member.2) :
    (record shapes).Fits (.object members) := by
  induction h with
  | nil => exact .anything _
  | cons hpair _ ih =>
    obtain ⟨hfirst, hothers⟩ := List.forall_mem_cons.mp hlookup
    refine .member ?_ hpair.2 (ih hothers)
    rw [hpair.1]
    exact hfirst

/-- **A record** has the shape of its members. -/
theorem fits_record {shapes : List (String × Shape)} {members : List (String × Value)}
    (h : List.Forall₂ (Written.Corresponds Fits) shapes members)
    (hkeys : (shapes.map (·.1)).Nodup) : (record shapes).Fits (Client.record members) := by
  -- The names are known from the shape already.
  have hnames : shapes.map (·.1) = members.map (·.1) := by
    rw [← List.forall₂_eq_eq_eq, List.forall₂_map_left_iff, List.forall₂_map_right_iff]
    exact h.imp fun _ _ hpair => hpair.1
  rw [hnames] at hkeys
  exact fits_record_of_lookup h fun _ hmember => Client.lookup_record hkeys hmember

/-- The shape that a name leads to. -/
def step? : Shape → String → Option Shape
  | .member name value others, sought => if sought = name then some value else others.step? sought
  | _, _ => none

/-- The shape that the names of a trail lead to. -/
def walk? (t : Trail) (shape : Shape) : Option Shape := t.names.foldlM step? shape

variable {shape found : Shape} {v : Value}

theorem Fits.exists_step? (h : shape.Fits v) {name : String}
    (hstep : shape.step? name = some found) : ∃ w, Trail.step? v name = some w ∧ found.Fits w := by
  induction h with
  | anything => cases hstep
  | list => cases hstep
  | @member own value others members w hfound hvalue hothers _ ih =>
    rw [step?] at hstep
    -- Another name is one of the other members, which are those of the same object.
    split_ifs at hstep with hname
    · subst hname
      obtain rfl := Option.some.inj hstep
      exact ⟨w, hfound, hvalue⟩
    · exact ih hstep

theorem Fits.exists_walk? (h : shape.Fits v) {t : Trail} (hwalk : shape.walk? t = some found) :
    ∃ w, t.walk? v = some w ∧ found.Fits w := by
  unfold walk? at hwalk
  unfold Trail.walk?
  generalize t.names = names at *
  -- Each name is a step from what the names before it lead to.
  induction names generalizing shape v with
  | nil =>
    obtain rfl := Option.some.inj hwalk
    exact ⟨v, rfl, h⟩
  | cons name names ih =>
    rw [List.foldlM_cons] at hwalk
    obtain ⟨next, hstep, hwalk⟩ := Option.bind_eq_some_iff.mp hwalk
    obtain ⟨w, hw, hfits⟩ := h.exists_step? hstep
    rw [List.foldlM_cons, hw]
    exact ih hfits hwalk

end Shape

/-! ## Shapes of scopes -/

/-- What is known of the names of a round. -/
structure FrameShape where
  assigned : List (String × Shape)
  /-- The name for the values. -/
  name : String
  value : Shape
deriving DecidableEq, Repr

/-- What is known of all names at a place in a template. -/
structure ScopeShape where
  frames : List FrameShape
  assigned : List (String × Shape)
  /-- The name that the template is rendered with. -/
  name : String
  value : Shape
deriving DecidableEq, Repr

/-- What is known of what a trail leads to. It leads to nothing, it leads to a value of a shape, or
its variable is there and no more is known. -/
inductive Leads : Option (Option Shape) → Option Value → Prop
  | missing : Leads none none
  | unknown (v : Option Value) : Leads (some none) v
  | found {shape : Shape} {v : Value} (h : shape.Fits v) : Leads (some (some shape)) (some v)

namespace Leads

/-- What leads to nothing is looked for elsewhere. -/
theorem or {first second : Option (Option Shape)} {v w : Option Value} (hfirst : Leads first v)
    (hsecond : Leads second w) : Leads (first.or second) (v.or w) := by
  cases hfirst with
  | missing => exact hsecond
  | unknown v => exact .unknown _
  | found h => exact .found h

/-- A trail from a value of some shape. -/
theorem walk {shape : Shape} {v : Value} (h : shape.Fits v) (t : Trail) :
    Leads (some (shape.walk? t)) (t.walk? v) := by
  cases hwalk : shape.walk? t with
  | none => exact .unknown _
  | some found =>
    obtain ⟨w, hw, hfits⟩ := h.exists_walk? hwalk
    rw [hw]
    exact .found hfits

/-- A trail from assigned names. -/
theorem assigned {shapes : List (String × Shape)} {entries : List (String × Value)}
    (h : List.Forall₂ (Written.Corresponds Shape.Fits) shapes entries) (t : Trail) :
    Leads ((shapes.lookup t.root).map (·.walk? t)) ((entries.lookup t.root).bind t.walk?) := by
  have hlookup := Written.rel_lookup h t.root
  revert hlookup
  cases shapes.lookup t.root <;> cases entries.lookup t.root <;> rintro (hfits | _)
  · exact .missing
  · exact walk hfits t

end Leads

namespace FrameShape

/-- Whether a trail of the word `loop` leads to a position. -/
def isPosition (t : Trail) : Bool :=
  (t.tail.map String.ofList).any ["index", "index0", "first", "last"].contains

/-- What a trail leads to from the names of a round. -/
def find? (f : FrameShape) (t : Trail) : Option (Option Shape) :=
  ((f.assigned.lookup t.root).map (·.walk? t)).or <|
    if t.root = "loop" then some (if isPosition t then some .anything else none)
    else if t.root = f.name then some (f.value.walk? t)
    else none

/-- The names of a round have values of their shapes. -/
structure Fits (shape : FrameShape) (f : Frame) : Prop where
  assigned : List.Forall₂ (Written.Corresponds Shape.Fits) shape.assigned f.assigned.entries
  key : f.round.key = none
  name : f.round.name = shape.name
  value : shape.value.Fits f.round.value

theorem exists_position? (r : Round) {t : Trail} (h : isPosition t = true) :
    ∃ v, r.position? t = some v := by
  unfold isPosition at h
  unfold Round.position?
  cases htail : t.tail.map String.ofList with
  | none =>
    rw [htail] at h
    cases h
  | some word =>
    rw [htail] at h
    have hmem : word ∈ ["index", "index0", "first", "last"] := List.contains_iff_mem.mp h
    simp only [List.mem_cons, List.not_mem_nil, or_false] at hmem
    rcases hmem with rfl | rfl | rfl | rfl
    · exact ⟨_, rfl⟩
    · exact ⟨_, rfl⟩
    · exact ⟨_, rfl⟩
    · exact ⟨_, rfl⟩

theorem Fits.leads {shape : FrameShape} {f : Frame} (h : shape.Fits f) (t : Trail) :
    Leads (shape.find? t) (f.find? t) := by
  refine (Leads.assigned h.assigned t).or ?_
  rw [Round.find?, h.key, h.name]
  change Leads _ (if t.root = "loop" then _ else if t.root = shape.name then _ else none)
  split_ifs with hloop hposition hname
  · obtain ⟨v, hv⟩ := exists_position? f.round hposition
    rw [hv]
    exact .found (.anything v)
  · exact .unknown _
  · exact .walk h.value t
  · exact .missing

/-- Where a round has no such variable, the rounds around it are asked. -/
theorem leads_findSome? {shapes : List FrameShape} {frames : List Frame}
    (h : List.Forall₂ Fits shapes frames) (t : Trail) :
    Leads (shapes.findSome? (·.find? t)) (frames.findSome? (·.find? t)) := by
  induction h with
  | nil => exact .missing
  | @cons shape frame _ _ hfirst _ ih =>
    have hor := (hfirst.leads t).or ih
    rw [List.findSome?_cons, List.findSome?_cons]
    cases hleft : shape.find? t <;> cases hright : frame.find? t <;> rw [hleft, hright] at hor <;>
      exact hor

end FrameShape

namespace ScopeShape

/-- The shapes at the start of a template. -/
def start (name : String) (value : Shape) : ScopeShape := ⟨[], [], name, value⟩

/-- What a trail leads to: the innermost round with its variable counts. -/
def find? (s : ScopeShape) (t : Trail) : Option (Option Shape) :=
  (s.frames.findSome? (·.find? t)).or <|
    ((s.assigned.lookup t.root).map (·.walk? t)).or <|
      if t.root = s.name then some (s.value.walk? t) else none

/-- The shape that a path leads to. -/
def path? (s : ScopeShape) (p : Path) : Option Shape :=
  if p.isPlain then (s.find? p.trail).join else none

/-- The shapes with a name assigned outside of all loops. -/
def assignEverywhere (s : ScopeShape) (name : String) (value : Shape) : ScopeShape :=
  { s with assigned := Written.setPair name value s.assigned }

/-- The shapes with a name assigned in the innermost round. -/
def assign (s : ScopeShape) (name : String) (value : Shape) : ScopeShape :=
  match s.frames with
  | [] => s.assignEverywhere name value
  | frame :: frames =>
    let frame := { frame with assigned := Written.setPair name value frame.assigned }
    { s with frames := frame :: frames }

/-- The shapes inside a new round. -/
def enter (s : ScopeShape) (name : String) (value : Shape) : ScopeShape :=
  { s with frames := ⟨[], name, value⟩ :: s.frames }

/-- The shapes behind the innermost round. -/
def leave (s : ScopeShape) : ScopeShape := { s with frames := s.frames.drop 1 }

/-- The names of a scope have values of their shapes. -/
structure Fits (shape : ScopeShape) (s : Scope) : Prop where
  frames : List.Forall₂ FrameShape.Fits shape.frames s.frames
  assigned : List.Forall₂ (Written.Corresponds Shape.Fits) shape.assigned s.assigned.entries
  name : s.given.1 = shape.name
  value : shape.value.Fits s.given.2

namespace Fits

variable {shape : ScopeShape} {s : Scope} {found : Shape} {v : Value}

theorem start (name : String) (h : found.Fits v) :
    (ScopeShape.start name found).Fits (.start name v) where
  frames := .nil
  assigned := .nil
  name := rfl
  value := h

/-- **What a trail leads to** is of the shape that it leads to. -/
theorem leads (h : shape.Fits s) (t : Trail) : Leads (shape.find? t) (s.lookup? t) := by
  have hframes := FrameShape.leads_findSome? h.frames t
  refine hframes.or ((Leads.assigned h.assigned t).or ?_)
  -- The name that the template is rendered with comes last.
  rw [h.name]
  split_ifs with hname
  · exact .walk h.value t
  · exact .missing

theorem exists_find (h : shape.Fits s) {p : Path} (hpath : shape.path? p = some found) :
    ∃ v, s.find p = .ok v ∧ found.Fits v := by
  rw [path?] at hpath
  split_ifs at hpath with hplain
  have hleads := h.leads p.trail
  rw [Option.join_eq_some_iff.mp hpath] at hleads
  generalize hlookup : s.lookup? p.trail = looked at hleads
  cases hleads with
  | @found _ v hfits => exact ⟨v, Scope.find_of_lookup? hplain hlookup, hfits⟩

theorem assignEverywhere (h : shape.Fits s) (name : String) (hvalue : found.Fits v) :
    (shape.assignEverywhere name found).Fits (s.assignEverywhere name v) :=
  { h with assigned := Written.forall₂_setPair h.assigned name hvalue }

theorem assign (h : shape.Fits s) (name : String) (hvalue : found.Fits v) :
    (shape.assign name found).Fits (s.assign name v) := by
  obtain ⟨frames, assigned, own, value⟩ := shape
  obtain ⟨actual, entries, given⟩ := s
  cases h.frames with
  | nil => exact h.assignEverywhere name hvalue
  | cons hframe hframes =>
    have hset := Written.forall₂_setPair hframe.assigned name hvalue
    exact { h with frames := .cons { hframe with assigned := hset } hframes }

theorem enter (h : shape.Fits s) {r : Round} {name : String} (hkey : r.key = none)
    (hname : r.name = name) (hvalue : found.Fits r.value) :
    (shape.enter name found).Fits (s.enter r) :=
  { h with frames := .cons ⟨.nil, hkey, hname, hvalue⟩ h.frames }

theorem leave (h : shape.Fits s) : shape.leave.Fits s.leave :=
  { h with frames := List.forall₂_drop 1 h.frames }

end Fits

end ScopeShape

end Stencil.Template
