import Mathlib.Data.List.Chain
import Mathlib.Data.List.Perm.Subperm
import Mathlib.Logic.Relation
import Stencil.Declaration.Document
import Stencil.Proofs.Client.Parents

/-!
# Inheritance

A class inherits from the class of its parent, that one from the class of its own parent, and so
on. The descriptors follow the declaration in this: the classes go round in a circle where the
models do, and nowhere else. So a walk from class to parent ends wherever the models of a
declaration do not go round.

## Main definitions

* `Declaration.Descends declaration name parent`: one model alone lists a name
* `Converter.Inherits models m p`: the descriptor `m` names the descriptor `p` as its parent

## Main results

* `Converter.inherits_iff`: who inherits from whom
* `Converter.walks_of_descends`: walks from class to parent
* `Converter.circle_henAndEgg`: two models that list each other
-/

namespace Stencil

/-- One model alone lists a name among its sub types. -/
def Declaration.Descends (declaration : Declaration) (name parent : String) : Prop :=
  ∀ other, declaration.Lists other name ↔ other = parent

namespace Converter

open Relation (TransGen)
open Client (ModelDescriptor)

/-- A descriptor names another one as its parent, among the descriptors `models`. -/
def Inherits (models : List ModelDescriptor) (m p : ModelDescriptor) : Prop :=
  m ∈ models ∧ p ∈ models ∧ m.parent = some p.name

section Walks

variable {language : Language} (hnames : language.NamesFiles) {declaration : Declaration}
  {m p : ModelDescriptor}

include hnames in
theorem eq_of_declaredName_eq (hm : m ∈ (ready language declaration).models)
    (hp : p ∈ (ready language declaration).models) (h : m.declaredName = p.declaredName) :
    m = p := by
  have hname : m.name = p.name := by
    rw [name_eq_className hm, name_eq_className hp, h]
  exact List.inj_on_of_nodup_map (nodup_names hnames declaration) hm hp hname

include hnames in
/-- **Who inherits from whom** is what the declaration says about the models of the classes. -/
theorem inherits_iff : Inherits (ready language declaration).models m p ↔
    m ∈ (ready language declaration).models ∧ p ∈ (ready language declaration).models ∧
      declaration.Descends m.declaredName p.declaredName := by
  constructor
  · rintro ⟨hm, hp, hparent⟩
    obtain ⟨q, hq, hname, honly⟩ := (parent_eq_some_iff hm p.name).mp hparent
    -- The class that is named is the class of the model that lists the name.
    obtain rfl : q = p := List.inj_on_of_nodup_map (nodup_names hnames declaration) hq hp hname
    exact ⟨hm, hp, honly⟩
  · rintro ⟨hm, hp, honly⟩
    exact ⟨hm, hp, (parent_eq_some_iff hm p.name).mpr ⟨p, hp, rfl, honly⟩⟩

/-- A parent has a descriptor that is inherited from. -/
theorem exists_inherits_of_parent (hm : m ∈ (ready language declaration).models)
    {className : String} (h : m.parent = some className) :
    ∃ p, Inherits (ready language declaration).models m p := by
  obtain ⟨p, hp, rfl, -⟩ := (parent_eq_some_iff hm className).mp h
  exact ⟨p, hm, hp, h⟩

/-! ## Circles -/

include hnames in
theorem transGen_descends (h : TransGen (Inherits (ready language declaration).models) m p) :
    TransGen declaration.Descends m.declaredName p.declaredName :=
  TransGen.lift (·.declaredName) (fun _ _ h => ((inherits_iff hnames).mp h).2.2) _ _ h

include hnames in
/-- From a class on, the parents of its model are followed class by class. -/
theorem exists_transGen_inherits (hm : m ∈ (ready language declaration).models) {parent : String}
    (h : TransGen declaration.Descends m.declaredName parent) :
    ∃ p ∈ (ready language declaration).models, p.declaredName = parent ∧
      TransGen (Inherits (ready language declaration).models) m p := by
  -- A model that lists a name is declared, and so it has a descriptor.
  have hdeclared : ∀ {name parent : String}, declaration.Descends name parent →
      ∃ p ∈ (ready language declaration).models, p.declaredName = parent := fun honly => by
    obtain ⟨p, hp, hname, -⟩ := @exists_of_lists language _ _ _ ((honly _).mpr rfl)
    exact ⟨p, hp, hname⟩
  induction h with
  | single honly =>
    obtain ⟨p, hp, rfl⟩ := hdeclared honly
    exact ⟨p, hp, rfl, .single ((inherits_iff hnames).mpr ⟨hm, hp, honly⟩)⟩
  | tail _ honly ih =>
    obtain ⟨q, hq, rfl, hwalk⟩ := ih
    obtain ⟨p, hp, rfl⟩ := hdeclared honly
    exact ⟨p, hp, rfl, hwalk.tail ((inherits_iff hnames).mpr ⟨hq, hp, honly⟩)⟩

/-! ## Walks from class to parent -/

variable {models : List ModelDescriptor} {walk : List ModelDescriptor}

theorem mem_of_isChain (hm : m ∈ models) (h : (m :: walk).IsChain (Inherits models)) :
    ∀ p ∈ m :: walk, p ∈ models := by
  induction walk generalizing m with
  | nil => exact fun p hp => List.mem_singleton.mp hp ▸ hm
  | cons next walk ih =>
    obtain ⟨⟨-, hnext, -⟩, hrest⟩ := List.isChain_cons_cons.mp h
    exact List.forall_mem_cons.mpr ⟨hm, ih hnext hrest⟩

/-- Where no class comes back to itself, no walk comes to a class twice. -/
theorem nodup_of_isChain (hacyclic : ∀ m, ¬ TransGen (Inherits models) m m)
    (h : walk.IsChain (Inherits models)) : walk.Nodup := by
  -- Of any two classes on a walk, the first one comes to the second one.
  have hpairs : walk.Pairwise (TransGen (Inherits models)) :=
    (h.imp fun _ _ => TransGen.single).pairwise
  refine hpairs.imp ?_
  rintro m _ hwalk rfl
  exact hacyclic m hwalk

/-- A walk ends at a class without a parent, or goes on as far as one likes. -/
theorem exists_ended_or_long (hm : m ∈ (ready language declaration).models) (count : Nat) :
    (∃ walk last, (m :: walk).IsChain (Inherits (ready language declaration).models) ∧
        (m :: walk).getLast? = some last ∧ last.parent = none ∧ walk.length < count) ∨
      ∃ walk, (m :: walk).IsChain (Inherits (ready language declaration).models) ∧
        walk.length = count := by
  -- Induction on how far the walk goes; one that has ended goes no further.
  induction count with
  | zero => exact Or.inr ⟨[], .singleton m, rfl⟩
  | succ count ih =>
    rcases ih with ⟨walk, last, hchain, hlast, hnone, hlt⟩ | ⟨walk, hchain, hlength⟩
    · exact Or.inl ⟨walk, last, hchain, hlast, hnone, Nat.lt_succ_of_lt hlt⟩
    · -- The last class of the walk has a parent, to which the walk goes on, or has none.
      obtain ⟨last, hlast⟩ : ∃ last, (m :: walk).getLast? = some last := ⟨_, List.getLast?_cons⟩
      have hmem := mem_of_isChain hm hchain last (List.mem_of_getLast? hlast)
      cases hparent : last.parent with
      | none =>
        exact Or.inl ⟨walk, last, hchain, hlast, hparent, hlength ▸ Nat.lt_succ_self walk.length⟩
      | some className =>
        obtain ⟨p, hp⟩ := exists_inherits_of_parent hmem hparent
        refine Or.inr ⟨walk ++ [p], ?_, by rw [List.length_append, hlength]; rfl⟩
        rw [← List.cons_append, List.isChain_append]
        refine ⟨hchain, .singleton p, fun q hq r hr => ?_⟩
        obtain rfl : last = q := Option.some.inj (hlast.symm.trans hq)
        obtain rfl : p = r := Option.some.inj hr
        exact hp

/-- Where no class comes back to itself, a walk ends before it has been at every class. -/
theorem exists_ended (hacyclic : ∀ m, ¬ TransGen (Inherits (ready language declaration).models) m m)
    (hm : m ∈ (ready language declaration).models) :
    ∃ walk last, (m :: walk).IsChain (Inherits (ready language declaration).models) ∧
      (m :: walk).getLast? = some last ∧ last.parent = none ∧
      walk.length < (ready language declaration).models.length := by
  rcases exists_ended_or_long hm (ready language declaration).models.length with
    hended | ⟨walk, hchain, hlength⟩
  · exact hended
  · -- A longer walk would be at some class twice.
    have hsubset : (m :: walk) ⊆ (ready language declaration).models :=
      fun p hp => mem_of_isChain hm hchain p hp
    have hle := (List.subperm_of_subset (nodup_of_isChain hacyclic hchain) hsubset).length_le
    rw [List.length_cons, hlength] at hle
    exact absurd hle (Nat.not_succ_le_self _)

end Walks

/-- **Walks from class to parent**: where no model of the declaration comes back to itself, no walk
comes to a class twice, and from each class one ends at a class without a parent after fewer steps
than there are classes. Where two different models are on a circle, their classes are. -/
theorem walks_of_descends {key : String} {language : Language}
    (h : Registry.builtin.resolve key = .ok language) (declaration : Declaration) (calls : Nat) :
    ((∀ name, ¬ TransGen declaration.Descends name name) →
      ∀ m ∈ (register^[calls] { language, declaration }).models,
        (∀ walk, (m :: walk).IsChain
            (Inherits (register^[calls] { language, declaration }).models) → (m :: walk).Nodup) ∧
          ∃ walk last, (m :: walk).IsChain
              (Inherits (register^[calls] { language, declaration }).models) ∧
            (m :: walk).getLast? = some last ∧ last.parent = none ∧
            walk.length < (register^[calls] { language, declaration }).models.length) ∧
      ∀ first second, first ≠ second → TransGen declaration.Descends first second →
        TransGen declaration.Descends second first →
        ∃ m p, m ≠ p ∧ m.declaredName = first ∧ p.declaredName = second ∧
          TransGen (Inherits (register^[calls] { language, declaration }).models) m p ∧
          TransGen (Inherits (register^[calls] { language, declaration }).models) p m := by
  have hnames := Registry.namesFiles_of_resolve h
  have hready : (register^[calls] { language, declaration }).models =
      (ready language declaration).models := by
    rw [models_iterate_register, ready, models_register]
  rw [hready]
  constructor
  · intro hacyclic m hm
    have hclasses : ∀ m, ¬ TransGen (Inherits (ready language declaration).models) m m :=
      fun m hcircle => hacyclic m.declaredName (transGen_descends hnames hcircle)
    exact ⟨fun walk hchain => nodup_of_isChain hclasses hchain, exists_ended hclasses hm⟩
  · intro first second hne hthere hback
    -- The first model lists another one at the end of the way back, so it has a descriptor.
    obtain ⟨name, -, honly⟩ := TransGen.tail'_iff.mp hback
    obtain ⟨m, hm, rfl, -⟩ := @exists_of_lists language _ _ _ ((honly first).mpr rfl)
    obtain ⟨p, hp, rfl, hfirst⟩ := exists_transGen_inherits hnames hm hthere
    obtain ⟨q, hq, hname, hsecond⟩ := exists_transGen_inherits hnames hp hback
    obtain rfl := eq_of_declaredName_eq hnames hq hm hname
    exact ⟨q, p, fun heq => hne (congrArg (·.declaredName) heq), rfl, rfl, hfirst, hsecond⟩

/-- Three generations of models. -/
def generations : Declaration where
  models := ⟨[("Lion", {}), ("Cat", { subTypes := some ["Lion", "Lynx"] }),
    ("Animal", { subTypes := some ["Cat"] })], by decide⟩

/-- Two models each of which lists the other one. -/
def henAndEgg : Declaration where
  models := ⟨[("Hen", { subTypes := some ["Egg"] }), ("Egg", { subTypes := some ["Hen"] })],
    by decide⟩

/-- A parent is of an older generation. -/
theorem not_transGen_generations (name : String) :
    ¬ TransGen generations.Descends name name := by
  intro hcircle
  -- The names are listed from the youngest to the oldest, so that links go up in the list.
  have holder : generations.Descends ≤ Function.onFun (· < ·)
      fun name => ["Lion", "Lynx", "Cat", "Animal"].idxOf name := by
    intro name parent honly
    obtain ⟨model, hentry, hname⟩ := (honly parent).mpr rfl
    simp only [generations, List.mem_cons, List.not_mem_nil, or_false, Prod.mk.injEq] at hentry
    rcases hentry with ⟨rfl, rfl⟩ | ⟨rfl, rfl⟩ | ⟨rfl, rfl⟩
    · cases hname
    · obtain rfl | rfl : name = "Lion" ∨ name = "Lynx" := by simpa using hname
      · decide
      · decide
    · obtain rfl : name = "Cat" := by simpa using hname
      decide
  have hrank := TransGen.lift _ holder _ _ hcircle
  rw [Relation.transGen_eq_self] at hrank
  exact lt_irrefl _ hrank

theorem descends_henAndEgg :
    henAndEgg.Descends "Hen" "Egg" ∧ henAndEgg.Descends "Egg" "Hen" :=
  ⟨Declaration.parentOf_eq_found_iff.mp (by decide),
    Declaration.parentOf_eq_found_iff.mp (by decide)⟩

theorem walks_of_descends_generations :
    Registry.builtin.resolve "c#" = .ok CSharp.language ∧
      (∀ name, ¬ TransGen generations.Descends name name) ∧
      (ready CSharp.language generations).models.map (fun m => (m.name, m.parent)) =
        [("Lion", some "Cat"), ("Cat", some "Animal"), ("Animal", none)] ∧
      (∀ m ∈ (ready CSharp.language generations).models, ∀ walk,
        (m :: walk).IsChain (Inherits (ready CSharp.language generations).models) →
          (m :: walk).Nodup) ∧
      henAndEgg.Descends "Hen" "Egg" ∧ henAndEgg.Descends "Egg" "Hen" ∧
      ∃ m, m.declaredName = "Hen" ∧
        TransGen (Inherits (ready CSharp.language henAndEgg).models) m m := by
  obtain ⟨hwalks, -⟩ := @walks_of_descends "c#" CSharp.language rfl generations 1
  obtain ⟨-, hcircle⟩ := @walks_of_descends "c#" CSharp.language rfl henAndEgg 1
  obtain ⟨hhen, hegg⟩ := descends_henAndEgg
  obtain ⟨m, p, -, hname, -, hthere, hback⟩ :=
    hcircle "Hen" "Egg" (by decide) (.single hhen) (.single hegg)
  exact ⟨rfl, not_transGen_generations, by decide +kernel,
    fun m hm => (hwalks not_transGen_generations m hm).1, hhen, hegg, m, hname,
    hthere.trans hback⟩

/-! ## Two models that list each other -/

/-- A text with two models each of which lists the other one. -/
def henAndEggText : String :=
  "\x7b\"apis\":[\x7b\"path\":\"/farm\"\x7d],\"models\":\x7b" ++
    "\"Hen\":\x7b\"subTypes\":[\"Egg\"]\x7d,\"Egg\":\x7b\"subTypes\":[\"Hen\"]\x7d\x7d\x7d"

/-- The walk from the hen comes back to the hen. -/
theorem circle_henAndEgg : ∃ document hen egg, Document.parse henAndEggText = .ok document ∧
    hen ∈ (ready CSharp.language document.declaration).models ∧
    hen.name = "Hen" ∧ hen.parent = some "Egg" ∧ egg.name = "Egg" ∧ egg.parent = some "Hen" ∧
    [hen, egg, hen].IsChain (Inherits (ready CSharp.language document.declaration).models) ∧
    ¬ [hen, egg, hen].Nodup := by
  have hmodels : (Document.parse henAndEggText).toOption.map (fun document =>
      (ready CSharp.language document.declaration).models.map fun m => (m.name, m.parent)) =
        some [("Hen", some "Egg"), ("Egg", some "Hen")] := by
    decide +kernel
  cases hparsed : Document.parse henAndEggText with
  | error failure =>
    rw [hparsed] at hmodels
    cases hmodels
  | ok document =>
    rw [hparsed] at hmodels
    obtain ⟨hen, _, hlist, hhen, hrest⟩ := List.map_eq_cons_iff.mp (Option.some.inj hmodels)
    obtain ⟨egg, rfl, hegg⟩ := List.map_eq_singleton_iff.mp hrest
    obtain ⟨hhenName, hhenParent⟩ := Prod.mk.inj hhen
    obtain ⟨heggName, heggParent⟩ := Prod.mk.inj hegg
    refine ⟨document, hen, egg, rfl, ?_, hhenName, hhenParent, heggName, heggParent, ?_, by simp⟩
    · simp [hlist]
    · rw [hlist]
      refine .cons_cons ⟨by simp, by simp, ?_⟩ (.cons_cons ⟨by simp, by simp, ?_⟩ (.singleton hen))
      · rw [hhenParent, heggName]
      · rw [heggParent, hhenName]

end Converter

end Stencil
