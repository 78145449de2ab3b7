import Mathlib.Data.List.Perm.Basic
import Stencil.Proofs.Client.Undeclared

/-!
# Parents of models

A model has a parent if exactly one model lists its name among its sub types, be it the model
itself; a name that a model lists several times counts once. The descriptors say the same in the
names of classes, which are distinct.

## Main definitions

* `Declaration.Lists declaration parent name`: a declared model lists a name

## Main results

* `Declaration.parentOf_eq_found_iff` and the like: what the search for a parent finds
* `Converter.parent_iff`: parents and sub types in the descriptors of models
-/

namespace Stencil

namespace Declaration

/-! ## Models that list a name -/

/-- A declared model lists a name among its sub types. -/
def Lists (declaration : Declaration) (parent name : String) : Prop :=
  ∃ model, (parent, model) ∈ declaration.models.entries ∧ name ∈ model.subTypes.getD []

variable {declaration : Declaration} {parent name : String}

theorem Model.lists_iff {model : Model} :
    model.lists name = true ↔ name ∈ model.subTypes.getD [] := by
  unfold Model.lists
  cases model.subTypes with
  | none => simp
  | some names => simp

theorem mem_listing_iff : parent ∈ declaration.listing name ↔ declaration.Lists parent name := by
  unfold listing
  constructor
  · intro h
    obtain ⟨⟨key, model⟩, hentry, rfl⟩ := List.mem_map.mp h
    obtain ⟨hentry, hlists⟩ := List.mem_filter.mp hentry
    exact ⟨model, hentry, Model.lists_iff.mp hlists⟩
  · rintro ⟨model, hentry, hlists⟩
    exact List.mem_map.mpr ⟨(parent, model),
      List.mem_filter.mpr ⟨hentry, Model.lists_iff.mpr hlists⟩, rfl⟩

/-- The models that list a name come in the order of the declaration. -/
theorem listing_sublist (declaration : Declaration) (name : String) :
    (declaration.listing name).Sublist declaration.models.keys :=
  List.filter_sublist.map _

theorem nodup_listing (declaration : Declaration) (name : String) :
    (declaration.listing name).Nodup :=
  declaration.models.nodup_keys.sublist (listing_sublist declaration name)

/-! ## The search for a parent -/

theorem parentOf_eq_notFound_iff :
    declaration.parentOf name = .notFound ↔ ∀ other, ¬ declaration.Lists other name := by
  simp only [← mem_listing_iff, ← List.eq_nil_iff_forall_not_mem]
  unfold parentOf
  split <;> simp_all

theorem parentOf_eq_found_iff :
    declaration.parentOf name = .found parent ↔
      ∀ other, declaration.Lists other name ↔ other = parent := by
  simp only [← mem_listing_iff]
  -- A list without repeats is known by its members if it has one.
  have hlisting : declaration.listing name = [parent] ↔
      ∀ other, other ∈ declaration.listing name ↔ other = parent := by
    rw [← List.perm_singleton, List.perm_ext_iff_of_nodup (nodup_listing declaration name)
      (List.nodup_singleton parent)]
    simp only [List.mem_singleton]
  rw [← hlisting]
  unfold parentOf
  split <;> simp_all

/-- Several models that list the name are found in the order of the declaration. -/
theorem parentOf_eq_ambiguous {first second : String} (hfirst : declaration.Lists first name)
    (hsecond : declaration.Lists second name) (hne : first ≠ second) :
    declaration.parentOf name = .ambiguous (declaration.listing name) := by
  rw [← mem_listing_iff] at hfirst hsecond
  unfold parentOf
  split <;> simp_all

end Declaration

namespace Converter

variable {language : Language} {declaration : Declaration}

/-- Registering the names changes no descriptor. -/
theorem models_register (c : Converter) : c.register.models = c.models := by
  unfold register
  cases hregistered : c.registered with
  | none => simp only [models, names, hregistered, Option.getD_some, Option.getD_none]
  | some names => rfl

theorem models_iterate_register (calls : Nat) (c : Converter) :
    (register^[calls] c).models = c.models := by
  induction calls generalizing c with
  | zero => rfl
  | succ calls ih => rw [Function.iterate_succ_apply, ih, models_register]

/-! ## Parents in descriptors -/

/-- What the descriptor `m` of a model says about its parent, among the descriptors `models`. -/
structure ShowsParent (declaration : Declaration) (models : List Client.ModelDescriptor)
    (m : Client.ModelDescriptor) : Prop where
  /-- There is a parent if one model alone lists the name: the class of that model. -/
  parent_iff : ∀ className, m.parent = some className ↔
    ∃ p ∈ models, p.name = className ∧
      ∀ other, declaration.Lists other m.declaredName ↔ other = p.declaredName
  /-- No other class has the name of the parent. -/
  count_name : ∀ className, m.parent = some className →
    (models.map (·.name)).count className = 1
  /-- The parent shows the class among its sub types. -/
  name_mem_subTypes : ∀ className, m.parent = some className →
    ∀ p ∈ models, p.name = className → m.name ∈ p.subTypes
  notFound : (∀ other, ¬ declaration.Lists other m.declaredName) →
    m.parent = none ∧ declaration.parentOf m.declaredName = .notFound
  /-- Several models that list the name are all named, in the order of the declaration. -/
  ambiguous : ∀ first second, declaration.Lists first m.declaredName →
    declaration.Lists second m.declaredName → first ≠ second →
      m.parent = none ∧ ∃ names, declaration.parentOf m.declaredName = .ambiguous names ∧
        names.Sublist declaration.models.keys ∧
        ∀ name, name ∈ names ↔ declaration.Lists name m.declaredName

variable {m p : Client.ModelDescriptor}

theorem parent_eq (hm : m ∈ (ready language declaration).models) :
    m.parent = (declaration.parentOf m.declaredName).parent?.map
      ((Client.NameTable.build language declaration).className language) := by
  rw [models_ready] at hm
  obtain ⟨entry, -, rfl⟩ := List.mem_map.mp hm
  rfl

theorem name_eq_className (hm : m ∈ (ready language declaration).models) :
    m.name = (Client.NameTable.build language declaration).className language m.declaredName := by
  rw [models_ready] at hm
  obtain ⟨entry, -, rfl⟩ := List.mem_map.mp hm
  rfl

/-- A declared model that lists a name has a descriptor, among whose sub types is the class of
that name. -/
theorem exists_of_lists {parent name : String} (h : declaration.Lists parent name) :
    ∃ p ∈ (ready language declaration).models, p.declaredName = parent ∧
      (Client.NameTable.build language declaration).className language name ∈ p.subTypes := by
  obtain ⟨model, hentry, hname⟩ := h
  rw [models_ready]
  exact ⟨_, List.mem_map_of_mem hentry, rfl, List.mem_map_of_mem hname⟩

theorem parent_eq_some_iff (hm : m ∈ (ready language declaration).models) (className : String) :
    m.parent = some className ↔
      ∃ p ∈ (ready language declaration).models, p.name = className ∧
        ∀ other, declaration.Lists other m.declaredName ↔ other = p.declaredName := by
  rw [parent_eq hm]
  constructor
  · intro h
    obtain ⟨parent, hparent, rfl⟩ := Option.map_eq_some_iff.mp h
    have hfound : declaration.parentOf m.declaredName = .found parent := by
      revert hparent
      cases declaration.parentOf m.declaredName <;> simp [Declaration.ParentSearch.parent?]
    -- The parent is declared, as it lists the name, and so it has a descriptor.
    have honly := Declaration.parentOf_eq_found_iff.mp hfound
    obtain ⟨p, hp, rfl, -⟩ := @exists_of_lists language _ _ _ ((honly parent).mpr rfl)
    exact ⟨p, hp, name_eq_className hp, honly⟩
  · rintro ⟨p, hp, rfl, honly⟩
    rw [Declaration.parentOf_eq_found_iff.mpr honly, name_eq_className hp]
    rfl

/-- **Parents** in the descriptors of models, before the names are registered and after that. -/
theorem showsParent_of_mem {key : String} (h : Registry.builtin.resolve key = .ok language)
    (declaration : Declaration) (calls : Nat) :
    ∀ m ∈ (register^[calls] { language, declaration }).models,
      ShowsParent declaration (register^[calls] { language, declaration }).models m := by
  have hdistinct := nodup_names (Registry.namesFiles_of_resolve h) declaration
  have hready : (register^[calls] { language, declaration }).models =
      (ready language declaration).models := by
    rw [models_iterate_register, ready, models_register]
  rw [hready]
  intro m hm
  refine ⟨parent_eq_some_iff hm, ?_, ?_, ?_, ?_⟩
  · intro className hparent
    obtain ⟨p, hp, rfl, -⟩ := (parent_eq_some_iff hm className).mp hparent
    exact List.count_eq_one_of_mem hdistinct (List.mem_map_of_mem hp)
  · intro className hparent p hp hname
    obtain ⟨lister, hlister, heq, honly⟩ := (parent_eq_some_iff hm className).mp hparent
    obtain ⟨p', hp', hdeclared, hsub⟩ :=
      @exists_of_lists language _ _ _ ((honly lister.declaredName).mpr rfl)
    have hname' : p'.name = className := by
      rw [name_eq_className hp', hdeclared, ← name_eq_className hlister, heq]
    -- As classes have distinct names, this is the descriptor of the model that lists the name.
    obtain rfl := List.inj_on_of_nodup_map hdistinct hp hp' (hname.trans hname'.symm)
    rw [name_eq_className hm]
    exact hsub
  · intro hnone
    have hsearch := Declaration.parentOf_eq_notFound_iff.mpr hnone
    refine ⟨?_, hsearch⟩
    rw [parent_eq hm, hsearch]
    rfl
  · intro first second hfirst hsecond hne
    have hsearch := Declaration.parentOf_eq_ambiguous hfirst hsecond hne
    refine ⟨?_, _, hsearch, Declaration.listing_sublist _ _, fun name =>
      Declaration.mem_listing_iff⟩
    rw [parent_eq hm, hsearch]
    rfl

/-- A model that two others list, and one that lists itself and another twice, whose class has a
number. -/
def listedTwice : Declaration where
  models := ⟨[("Animal", { subTypes := some ["Cat"] }), ("Pet", { subTypes := some ["Cat"] }),
    ("Cat", {}), ("big_cat", {}), ("big-cat", { subTypes := some ["big-cat", "Lion", "Lion"] }),
    ("Lion", {})], by decide⟩

theorem showsParent_of_mem_listedTwice :
    Registry.builtin.resolve "c#" = .ok CSharp.language ∧
      (ready CSharp.language listedTwice).models.map (fun m => (m.name, m.parent)) =
        [("Animal", none), ("Pet", none), ("Cat", none), ("big_cat", none),
          ("big_cat1", some "big_cat1"), ("Lion", some "big_cat1")] ∧
      ∀ m ∈ (ready CSharp.language listedTwice).models,
        ShowsParent listedTwice (ready CSharp.language listedTwice).models m := by
  refine ⟨rfl, by decide +kernel, ?_⟩
  exact @showsParent_of_mem CSharp.language "c#" rfl listedTwice 1

end Converter

end Stencil
