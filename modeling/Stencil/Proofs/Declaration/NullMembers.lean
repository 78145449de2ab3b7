import Stencil.Proofs.Declaration.Reading

/-!
# Members that are null

Null is read into a field as what an empty structure has there. So a field that no member has been
read into is not changed by null, wherever among the members of the object this stands, and an
object is read as if the member were absent.

## Main results

* `Schema.members_insert`: members are read as if a null were absent
* `Schema.read_insert`: so are objects
-/

namespace Stencil.Declaration

open Json

variable {α : Type}

namespace Schema

/-- The keys of members. -/
def keysOf (members : List Member) : List String := (members.filterMap Member.pair?).map (·.1)

theorem keysOf_cons (key : String) (atKey : Place) (node : Node) (atValue : Place)
    (members : List Member) :
    keysOf (.entry key atKey node atValue :: members) = key :: keysOf members := rfl

variable {schema : Schema α} {seen : List String} {record result : α}

/-- How members are read depends on which of their own keys were seen before. -/
theorem members_congr_seen {seen' : List String} {members : List Member}
    (hseen : ∀ key ∈ keysOf members, key ∈ seen' → key ∈ seen)
    (h : schema.members seen record members = .ok result) :
    schema.members seen' record members = .ok result := by
  induction members generalizing seen seen' record with
  | nil => exact h
  | cons member rest ih =>
    cases member with
    | broken fault => cases h
    | entry key atKey node atValue =>
      rw [keysOf_cons] at hseen
      obtain ⟨hkey, hrest⟩ := List.forall_mem_cons.mp hseen
      rcases members_entry_eq_ok h with
        ⟨f, hf, rfl, hnew, content, hread, h⟩ | ⟨hunknown, value, hvalue, h⟩
      · rw [members_field hf (fun hmem => hnew (hkey hmem)) hread]
        refine ih (fun other hother hmem => ?_) h
        -- The key is seen now in both cases.
        rcases List.mem_cons.mp hmem with rfl | hmem
        · exact List.mem_cons_self
        · exact List.mem_cons_of_mem f.key (hrest other hother hmem)
      · rw [members_unknown hunknown hvalue]
        exact ih hrest h

variable {f : Field α} {before after : List Member}

/-- **Members are read as if a null were absent**, if none of them has its key and the structure has
at the field what an empty one has. -/
theorem members_insert (hf : f ∈ schema.table) (hseen : f.key ∉ seen)
    (hdefault : f.get record = f.default) (habsent : f.key ∉ keysOf (before ++ after))
    (atKey stop atValue : Place) (h : schema.members seen record (before ++ after) = .ok result) :
    schema.members seen record
      (before ++ .entry f.key atKey (.scalar .null stop) atValue :: after) = .ok result := by
  -- Induction on the members in front of the null, none of which is read into the field.
  induction before generalizing seen record with
  | nil =>
    rw [List.nil_append, members_field hf hseen (f.read_null stop), ← hdefault, f.set_get]
    refine members_congr_seen (fun other hother hmem => ?_) h
    refine (List.mem_cons.mp hmem).resolve_left ?_
    rintro rfl
    exact habsent hother
  | cons member before ih =>
    cases member with
    | broken fault => cases h
    | entry key atOther node atNode =>
      rw [List.cons_append, keysOf_cons] at habsent
      obtain ⟨hne, hothers⟩ := not_or.mp (mt List.mem_cons.mpr habsent)
      rw [List.cons_append]
      rcases members_entry_eq_ok h with
        ⟨g, hg, rfl, hnew, content, hread, h⟩ | ⟨hunknown, value, hvalue, h⟩
      · rw [members_field hg hnew hread]
        refine ih ?_ ?_ hothers h
        · exact fun hmem => (List.mem_cons.mp hmem).elim hne hseen
        · rw [get_set_of_ne hf hg (Ne.symm hne), hdefault]
      · rw [members_unknown hunknown hvalue]
        refine ih hseen ?_ hothers h
        rw [get_keep hf, hdefault]

/-- **An object is read** as if a null were absent. -/
theorem read_insert {key : String} (hkey : key ∈ schema.fields)
    (habsent : key ∉ keysOf (before ++ after)) (start start' atKey stop atValue : Place)
    (h : schema.read (.object start (before ++ after)) = .ok result) :
    schema.read
      (.object start' (before ++ .entry key atKey (.scalar .null stop) atValue :: after)) =
        .ok result := by
  obtain ⟨f, hf, rfl⟩ := exists_of_mem_fields hkey
  exact members_insert hf List.not_mem_nil (schema.get_empty f hf) habsent atKey stop atValue h

end Schema

end Stencil.Declaration
