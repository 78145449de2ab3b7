import Stencil.Proofs.Template.Echo

/-!
# Openings of templates

A template may start with literal pieces and fields of the view, whatever comes behind them. If it
is rendered, these come first: what is written is never changed later on, and neither a literal
piece nor a field sets anything that could change what the next one writes.

## Main definitions

* `Node.opening nodes`: the literal pieces and fields up to the first other node

## Main results

* `Node.exists_written_opening`: what nodes write starts with their opening
* `exists_eq_opening_append`: what a template is rendered as starts with its opening
-/

namespace Stencil.Template

open Json (Value)

namespace Field

/-- All fields. -/
def all : List Field := [resourceurl, nameSpace, name]

/-- The field that an expression is, with nothing around it. -/
def ofExpr? (e : Expr) : Option Field := e.path?.bind fun p => all.find? (·.path == p)

theorem eq_of_ofExpr? {e : Expr} {f : Field} (h : ofExpr? e = some f) :
    e = .plain (.path f.path) := by
  obtain ⟨p, hp, hfound⟩ := Option.bind_eq_some_iff.mp h
  have hpath := List.find?_some hfound
  rw [eq_of_beq hpath]
  exact Expr.eq_of_path? hp

end Field

namespace Node

/-- The literal pieces and fields that come first, up to any other node. -/
def opening : List Node → List EchoPart
  | .text t :: nodes => .literal t.toList :: opening nodes
  | .print e :: nodes =>
    match Field.ofExpr? e with
    | some f => .field f :: opening nodes
    | none => []
  | _ => []

/-- Nodes that run write the text of the first one before that of the others. -/
theorem exists_of_runAll_cons {s : Scope} {n : Node} {nodes : List Node} {first o : Outcome}
    (hfirst : run s n = .ok first) (hflow : first.flow = .next)
    (hrun : runAll s (n :: nodes) = .ok o) :
    ∃ others, runAll first.scope nodes = .ok others ∧ o = others.behind first.written := by
  cases hothers : runAll first.scope nodes with
  | ok others =>
    refine ⟨others, rfl, ?_⟩
    rw [runAll_cons hfirst hflow hothers] at hrun
    exact (Except.ok.inj hrun).symm
  | error fault =>
    rw [runAll, hfirst] at hrun
    simp only [bind, Except.bind, hflow, hothers] at hrun
    cases hrun

variable {members : Keyed Value} {value : Field → String}

/-- **What nodes write** starts with their opening. -/
theorem exists_written_opening {nodes : List Node}
    (hfields : ∀ f, .field f ∈ opening nodes → members.lookup f.member = some (.text (value f)))
    {o : Outcome} (hrun : runAll (.start viewName (.object members)) nodes = .ok o) :
    ∃ rest, o.written = String.join ((opening nodes).map (EchoPart.written value)) ++ rest := by
  have hnone (o : Outcome) : ∃ rest, o.written =
      String.join (([] : List EchoPart).map (EchoPart.written value)) ++ rest :=
    ⟨o.written, by simp⟩
  -- Induction on the nodes of the opening, which leave the scope as it is.
  induction nodes generalizing o with
  | nil => exact hnone o
  | cons n nodes ih =>
    cases n with
    | text t =>
      rw [opening] at hfields ⊢
      have hfirst : run (.start viewName (.object members)) (.text t) =
          .ok ⟨.start viewName (.object members), t, .next⟩ := by
        rw [run]
      obtain ⟨others, hothers, rfl⟩ := exists_of_runAll_cons hfirst rfl hrun
      obtain ⟨rest, hrest⟩ := ih (fun f hf => hfields f (List.mem_cons_of_mem _ hf)) hothers
      refine ⟨rest, ?_⟩
      rw [List.map_cons, String.join_cons, String.append_assoc, ← hrest, EchoPart.written,
        String.ofList_toList]
      rfl
    | print e =>
      rw [opening] at hfields ⊢
      cases hfield : Field.ofExpr? e with
      | none => exact hnone o
      | some f =>
        rw [hfield] at hfields
        obtain rfl := Field.eq_of_ofExpr? hfield
        have hvalue := Expr.value_path (Field.find_path (hfields f List.mem_cons_self))
        have hfirst : run (.start viewName (.object members)) (.print (.plain (.path f.path))) =
            .ok ⟨.start viewName (.object members), value f, .next⟩ := by
          rw [run, hvalue]
          rfl
        obtain ⟨others, hothers, rfl⟩ := exists_of_runAll_cons hfirst rfl hrun
        obtain ⟨rest, hrest⟩ := ih (fun f hf => hfields f (List.mem_cons_of_mem _ hf)) hothers
        refine ⟨rest, ?_⟩
        dsimp only
        rw [List.map_cons, String.join_cons, String.append_assoc, ← hrest]
        rfl
    | _ => exact hnone o

end Node

/-- **What a template is rendered as** starts with its opening. -/
theorem exists_eq_opening_append {template text : String} {members : Keyed Value}
    {value : Field → String} {parts : List EchoPart}
    (hopening : (Node.read? template).map Node.opening = some parts)
    (hfields : ∀ f, .field f ∈ parts → members.lookup f.member = some (.text (value f)))
    (hrender : render template (.object members) = .ok text) :
    ∃ rest, text = String.join (parts.map (EchoPart.written value)) ++ rest := by
  obtain ⟨nodes, hread, rfl⟩ := Option.map_eq_some_iff.mp hopening
  simp only [render, renderIn, hread] at hrender
  cases hrun : Node.runAll (.start viewName (.object members)) nodes with
  | ok o =>
    rw [hrun] at hrender
    rw [← Except.ok.inj hrender]
    exact Node.exists_written_opening hfields hrun
  | error fault =>
    rw [hrun] at hrender
    cases hrender

end Stencil.Template
