import Stencil.Template.Render

/-!
# Known templates

A template is known if it calls no function and uses no other filters and tests than those that are
defined here. What it is rendered as is a matter of the template and its view alone: a library, and
with it a clock, chance or the variables of the environment, has no part in it.

## Main definitions

* `Expr.isKnown e`, `Node.isKnown n`: an expression and a node are known
* `isKnown template`: a template is known

## Main results

* `Expr.meaning_withLibrary`: a known expression means the same with any library
* `Node.runAll_withLibrary`: known nodes write the same
* `renderWith_of_isKnown`: a known template is rendered the same
-/

namespace Stencil.Template

open Json (Value)

/-! ## Expressions -/

/-- The filters that are defined here. -/
def Filter.isNamed (name : String) : Bool :=
  name = "default" || name = "safe" || (FilterRule.find? name).isSome

mutual

/-- A value before filters is known. -/
def Term.isKnown : Term → Bool
  | .text _ | .whole _ | .fraction _ | .boolean _ | .path _ => true
  | .concat parts => Term.allKnown parts
  | .list items => Expr.allKnown items
  | .call _ _ => false
  | .combined _ left right => left.isKnown && right.isKnown
  | .joined _ left right => left.isKnown && right.isKnown
  | .comparison _ left right => left.isKnown && right.isKnown
  | .member _ item container => item.isKnown && container.isKnown
  | .test _ _ name arguments =>
    (name = "defined" || name = "undefined") && Expr.allKnown arguments

/-- All of some values before filters are known. -/
def Term.allKnown : List Term → Bool
  | [] => true
  | term :: terms => term.isKnown && Term.allKnown terms

/-- An expression is known. -/
def Expr.isKnown : Expr → Bool
  | .mk _ term filters => term.isKnown && Filter.allKnown filters

/-- All of some expressions are known. -/
def Expr.allKnown : List Expr → Bool
  | [] => true
  | e :: es => e.isKnown && Expr.allKnown es

/-- All of some filters are known, with their arguments. -/
def Filter.allKnown : List Filter → Bool
  | [] => true
  | .mk name arguments :: filters =>
    Filter.isNamed name && Filter.knownArguments arguments && Filter.allKnown filters

/-- All of some arguments are known. -/
def Filter.knownArguments : List (String × Expr) → Bool
  | [] => true
  | (_, e) :: arguments => e.isKnown && Filter.knownArguments arguments

end

section Expressions

variable (library : Library)

theorem Scope.findSpelled_withLibrary (s : Scope) (fuel : Nat) (spelling : List Char) :
    (s.withLibrary library).findSpelled fuel spelling = s.findSpelled fuel spelling := by
  induction fuel generalizing spelling with
  | zero => rfl
  | succ fuel ih =>
    rw [findSpelled, findSpelled]
    simp only [ih]
    rfl

theorem Scope.find_withLibrary (s : Scope) (p : Path) :
    (s.withLibrary library).find p = s.find p := by
  rw [find, find, findSpelled_withLibrary]
  rfl

theorem Meaning.partText_withLibrary (s : Scope) (term : Term) :
    partText (s.withLibrary library) term = partText s term := by
  cases term with
  | path p => rw [partText, partText, Scope.find_withLibrary]
  | _ => rfl

theorem Meaning.tested_withLibrary {name : String}
    (h : (name = "defined" || name = "undefined") = true) (s : Scope) (p : Path)
    (arguments : Except Fault (List Value)) :
    tested (s.withLibrary library) p name arguments = tested s p name arguments := by
  simp only [tested, if_pos h, Scope.find_withLibrary]

/-- A filter that is defined here is found whatever a library has. -/
theorem Filter.find?_or_of_isNamed {name : String} (h : Filter.isNamed name = true)
    (hother : ¬ (name = "default" ∨ name = "safe")) (rule? : Option FilterRule) :
    (FilterRule.find? name).or rule? = FilterRule.find? name := by
  have hfound : (FilterRule.find? name).isSome = true := by
    simpa [isNamed, not_or.mp hother] using h
  obtain ⟨rule, hrule⟩ := Option.isSome_iff_exists.mp hfound
  rw [hrule, Option.some_or]

-- The proofs follow the shape of the expression. Its paths are looked up in the frames and the view,
-- which another library leaves as they are.
mutual

/-- A known value means the same before filters. -/
theorem Term.meaning_withLibrary {term : Term} (h : term.isKnown = true) (s : Scope)
    (negated : Bool) :
    term.meaning (s.withLibrary library) negated = term.meaning s negated := by
  cases term with
  | text | whole | fraction | boolean => rw [Term.meaning, Term.meaning]
  | path p => rw [Term.meaning, Term.meaning, Scope.find_withLibrary]
  | concat parts =>
    rw [Term.isKnown] at h
    rw [Term.meaning, Term.meaning, Term.texts_withLibrary h]
  | list items =>
    rw [Term.isKnown] at h
    rw [Term.meaning, Term.meaning, Expr.values_withLibrary h]
  | call => cases h
  | combined o left right =>
    rw [Term.isKnown, Bool.and_eq_true] at h
    rw [Term.meaning, Term.meaning, Expr.meaning_withLibrary h.1,
      Expr.meaning_withLibrary h.2]
  | joined c left right =>
    rw [Term.isKnown, Bool.and_eq_true] at h
    cases c <;>
      rw [Term.meaning, Term.meaning, Expr.meaning_withLibrary h.1,
        Expr.meaning_withLibrary h.2]
  | comparison c left right =>
    rw [Term.isKnown, Bool.and_eq_true] at h
    rw [Term.meaning, Term.meaning, Expr.meaning_withLibrary h.1,
      Expr.meaning_withLibrary h.2]
  | member absent item container =>
    rw [Term.isKnown, Bool.and_eq_true] at h
    rw [Term.meaning, Term.meaning, Expr.meaning_withLibrary h.1,
      Expr.meaning_withLibrary h.2]
  | test absent p name arguments =>
    rw [Term.isKnown, Bool.and_eq_true] at h
    rw [Term.meaning, Term.meaning, Expr.values_withLibrary h.2,
      Meaning.tested_withLibrary library h.1]

theorem Term.texts_withLibrary {parts : List Term} (h : Term.allKnown parts = true)
    (s : Scope) : Term.texts (s.withLibrary library) parts = Term.texts s parts := by
  match parts with
  | [] => rw [Term.texts, Term.texts]
  | part :: parts =>
    rw [Term.allKnown, Bool.and_eq_true] at h
    have hothers := Term.texts_withLibrary h.2 s
    cases part with
    | call => cases h.1
    | _ =>
      rw [Term.texts, Term.texts, Meaning.partText_withLibrary, hothers]
      all_goals nofun

/-- **A known expression** means the same with any library. -/
theorem Expr.meaning_withLibrary {e : Expr} (h : e.isKnown = true) (s : Scope) :
    e.meaning (s.withLibrary library) = e.meaning s := by
  match e with
  | .mk negated term filters =>
    rw [Expr.isKnown, Bool.and_eq_true] at h
    have hfilters : Filter.applyAll (s.withLibrary library) filters =
        Filter.applyAll s filters := funext (Filter.applyAll_withLibrary h.2 s)
    rw [Expr.meaning, Expr.meaning, Term.meaning_withLibrary h.1,
      Filter.fallback?_withLibrary h.2, hfilters]

theorem Expr.values_withLibrary {es : List Expr} (h : Expr.allKnown es = true) (s : Scope) :
    Expr.values (s.withLibrary library) es = Expr.values s es := by
  match es with
  | [] => rw [Expr.values, Expr.values]
  | e :: es =>
    rw [Expr.allKnown, Bool.and_eq_true] at h
    rw [Expr.values, Expr.values, Expr.meaning_withLibrary h.1, Expr.values_withLibrary h.2]

theorem Filter.fallback?_withLibrary {filters : List Filter}
    (h : Filter.allKnown filters = true) (s : Scope) :
    Filter.fallback? (s.withLibrary library) filters = Filter.fallback? s filters := by
  match filters with
  | [] => rw [Filter.fallback?, Filter.fallback?]
  | .mk name arguments :: filters =>
    rw [Filter.allKnown, Bool.and_eq_true, Bool.and_eq_true] at h
    rw [Filter.fallback?, Filter.fallback?, Filter.argument?_withLibrary h.1.2]

theorem Filter.applyAll_withLibrary {filters : List Filter}
    (h : Filter.allKnown filters = true) (s : Scope) (v : Value) :
    Filter.applyAll (s.withLibrary library) filters v = Filter.applyAll s filters v := by
  match filters with
  | [] => rw [Filter.applyAll, Filter.applyAll]
  | .mk name arguments :: filters =>
    rw [Filter.allKnown, Bool.and_eq_true, Bool.and_eq_true] at h
    have hothers := Filter.applyAll_withLibrary h.2 s
    rw [Filter.applyAll, Filter.applyAll]
    split
    · exact hothers v
    · next hother =>
      -- The library is asked only for filters that are not defined here.
      have hother : ¬ (name = "default" ∨ name = "safe") := by simpa using hother
      simp only [Filter.argumentValues_withLibrary h.1.2, hothers,
        Filter.find?_or_of_isNamed h.1.1 hother]

theorem Filter.argument?_withLibrary {arguments : List (String × Expr)}
    (h : Filter.knownArguments arguments = true) (s : Scope) (sought : String) :
    Filter.argument? (s.withLibrary library) sought arguments =
      Filter.argument? s sought arguments := by
  match arguments with
  | [] => rw [Filter.argument?, Filter.argument?]
  | (name, e) :: arguments =>
    rw [Filter.knownArguments, Bool.and_eq_true] at h
    rw [Filter.argument?, Filter.argument?, Filter.argument?_withLibrary h.2,
      Expr.meaning_withLibrary h.1]

theorem Filter.argumentValues_withLibrary {arguments : List (String × Expr)}
    (h : Filter.knownArguments arguments = true) (s : Scope) :
    Filter.argumentValues (s.withLibrary library) arguments =
      Filter.argumentValues s arguments := by
  match arguments with
  | [] => rw [Filter.argumentValues, Filter.argumentValues]
  | (name, e) :: arguments =>
    rw [Filter.knownArguments, Bool.and_eq_true] at h
    rw [Filter.argumentValues, Filter.argumentValues, Expr.meaning_withLibrary h.1,
      Filter.argumentValues_withLibrary h.2]

end

end Expressions

/-! ## Nodes -/

mutual

/-- A node is known. -/
def Node.isKnown : Node → Bool
  | .text _ | .stop | .skip => true
  | .print e => e.isKnown
  | .assign _ _ e => e.isKnown
  | .branch clauses => Clause.allKnown clauses
  | .loop head body otherwise =>
    head.container.isKnown && Node.allKnown body && Node.allKnown otherwise

/-- All of some nodes are known. -/
def Node.allKnown : List Node → Bool
  | [] => true
  | n :: nodes => n.isKnown && Node.allKnown nodes

/-- All of some clauses are known. -/
def Clause.allKnown : List Clause → Bool
  | [] => true
  | .mk none body :: clauses => Node.allKnown body && Clause.allKnown clauses
  | .mk (some condition) body :: clauses =>
    condition.isKnown && Node.allKnown body && Clause.allKnown clauses

end

/-- A template is known. -/
def isKnown (template : String) : Bool := (Node.read? template).any Node.allKnown

/-- An outcome with another library in its scope. -/
def Outcome.withLibrary (library : Library) (o : Outcome) : Outcome :=
  { o with scope := o.scope.withLibrary library }

section Nodes

variable (library : Library)

theorem LoopHead.rounds_withLibrary {head : LoopHead} (h : head.container.isKnown = true)
    (s : Scope) : head.rounds (s.withLibrary library) = head.rounds s := by
  rw [rounds, rounds, Expr.meaning_withLibrary library h]

theorem bind_behind_withLibrary {given result : Except Fault Outcome}
    (h : given = result.map (.withLibrary library)) (written : String) :
    (given >>= fun o => .ok (o.behind written)) =
      (result >>= fun o => .ok (o.behind written)).map (Outcome.withLibrary library) := by
  rw [h]
  cases result <;> rfl

/-- Rounds do the same where their body does. -/
theorem runRounds_withLibrary {body : Scope → Except Fault Outcome}
    (h : ∀ s, body (s.withLibrary library) = (body s).map (.withLibrary library))
    (s : Scope) (rounds : List Round) :
    runRounds body (s.withLibrary library) rounds =
      (runRounds body s rounds).map (.withLibrary library) := by
  induction rounds generalizing s with
  | nil => rfl
  | cons round rounds ih =>
    have henter : (s.withLibrary library).enter round =
        (s.enter round).withLibrary library := rfl
    rw [runRounds, runRounds, henter, h]
    cases body (s.enter round) with
    | error fault => rfl
    | ok inner =>
      have hnext := ih inner.scope.leave
      obtain ⟨scope, written, flow⟩ := inner
      cases flow with
      | stop => rfl
      | next | skip => exact bind_behind_withLibrary library hnext written

mutual

/-- A known node does the same with any library. -/
theorem Node.run_withLibrary {n : Node} (h : n.isKnown = true) (s : Scope) :
    Node.run (s.withLibrary library) n = (Node.run s n).map (.withLibrary library) := by
  cases n with
  | text t =>
    rw [Node.run, Node.run]
    rfl
  | print e =>
    rw [Node.isKnown] at h
    rw [Node.run, Node.run, Expr.meaning_withLibrary library h]
    cases (e.meaning s).value <;> rfl
  | assign everywhere name e =>
    rw [Node.isKnown] at h
    rw [Node.run, Node.run, Expr.meaning_withLibrary library h]
    cases (e.meaning s).value with
    | error fault => rfl
    | ok v =>
      cases everywhere with
      | true => rfl
      | false =>
        -- The name is assigned in the innermost round if there is one.
        rcases s with ⟨_ | ⟨frame, frames⟩, assigned, given, other⟩ <;> rfl
  | stop | skip =>
    have hframes : (s.withLibrary library).frames = s.frames := rfl
    rw [Node.run, Node.run, interrupt, interrupt, hframes]
    split <;> rfl
  | branch clauses =>
    rw [Node.isKnown] at h
    rw [Node.run, Node.run, Clause.runFirst_withLibrary h]
  | loop head body otherwise =>
    rw [Node.isKnown, Bool.and_eq_true, Bool.and_eq_true] at h
    have hbody := Node.runAll_withLibrary h.1.2
    have hotherwise := Node.runAll_withLibrary h.2
    rw [Node.run, Node.run, LoopHead.rounds_withLibrary library h.1.1]
    cases head.rounds s with
    | error fault => rfl
    | ok rounds =>
      cases rounds with
      | nil => exact hotherwise s
      | cons round rounds =>
        -- The body does the same in every scope, and so do the rounds.
        exact @runRounds_withLibrary library (Node.runAll · body) hbody s _

/-- **Known nodes** do the same with any library. -/
theorem Node.runAll_withLibrary {nodes : List Node} (h : Node.allKnown nodes = true)
    (s : Scope) : Node.runAll (s.withLibrary library) nodes =
      (Node.runAll s nodes).map (.withLibrary library) := by
  match nodes with
  | [] =>
    rw [Node.runAll, Node.runAll]
    rfl
  | n :: nodes =>
    rw [Node.allKnown, Bool.and_eq_true] at h
    have hfirst := Node.run_withLibrary h.1 s
    have hothers := Node.runAll_withLibrary h.2
    rw [Node.runAll, Node.runAll, hfirst]
    cases Node.run s n with
    | error fault => rfl
    | ok first =>
      obtain ⟨scope, written, flow⟩ := first
      cases flow with
      | stop | skip => rfl
      | next => exact bind_behind_withLibrary library (hothers scope) written

theorem Clause.runFirst_withLibrary {clauses : List Clause}
    (h : Clause.allKnown clauses = true) (s : Scope) :
    Clause.runFirst (s.withLibrary library) clauses =
      (Clause.runFirst s clauses).map (.withLibrary library) := by
  match clauses with
  | [] =>
    rw [Clause.runFirst, Clause.runFirst]
    rfl
  | .mk none body :: clauses =>
    rw [Clause.allKnown, Bool.and_eq_true] at h
    rw [Clause.runFirst, Clause.runFirst, Node.runAll_withLibrary h.1]
  | .mk (some condition) body :: clauses =>
    rw [Clause.allKnown, Bool.and_eq_true, Bool.and_eq_true] at h
    have hbody := Node.runAll_withLibrary h.1.2 s
    have hothers := Clause.runFirst_withLibrary h.2 s
    rw [Clause.runFirst, Clause.runFirst, Expr.meaning_withLibrary library h.1.1]
    cases (condition.meaning s).truth with
    | error fault => rfl
    | ok b =>
      cases b with
      | true => exact hbody
      | false => exact hothers

end

/-- **A known template** is rendered the same with any library. -/
theorem renderWith_of_isKnown {template : String} (h : isKnown template = true) (view : Value) :
    renderWith library template view = render template view := by
  rw [renderWith, render, renderIn, renderIn]
  rw [isKnown] at h
  cases hread : Node.read? template with
  | none => rfl
  | some nodes =>
    rw [hread] at h
    have hrun := Node.runAll_withLibrary library h (.start viewName view)
    simp only [hrun]
    cases Node.runAll (.start viewName view) nodes <;> rfl

end Nodes

end Stencil.Template
