import Stencil.Proofs.Template.Shape

/-!
# Checked templates

A template is checked against the shape of its view, node by node. A loop is gone through once,
with what is known of all items, and has to leave the scope as it was, as a branch has. What passes
is rendered for every view of the shape, however many items its lists have.

## Main definitions

* `Expr.shape? s e`: the shape of an expression
* `Expr.isCondition s e`: an expression can stand as a condition
* `Node.behind? s n`: the shape of the scope behind a node without faults
* `checks template shape`: a template has no faults for views of a shape

## Main results

* `Expr.exists_value`: the value of an expression is of its shape
* `Node.runsTo_of_behind?`: a node without faults runs to its end
* `exists_render_of_checks`: a template that is checked is rendered
-/

namespace Stencil.Template

open Json (Value)

/-! ## Expressions -/

/-- The shape of a value before filters: that of a path, or a literal value. -/
def Term.shape? (s : ScopeShape) : Term → Option Shape
  | .path p => s.path? p
  | .text _ => some .anything
  | .whole _ => some .anything
  | .fraction _ => some .anything
  | .boolean _ => some .anything
  | _ => none

/-- The text that an expression is. -/
def Expr.text? : Expr → Option String
  | .mk false (.text t) [] => some t
  | _ => none

/-- The shape that a filter makes of another one: the items of a list are joined, with texts as the
arguments. -/
def Filter.shape? : Shape → Filter → Option Shape
  | .list _, .mk name arguments =>
    if name = "join" ∧ arguments.all (·.2.text?.isSome) then some .anything else none
  | _, _ => none

/-- The shape of an expression. -/
def Expr.shape? (s : ScopeShape) : Expr → Option Shape
  | .mk negated term filters => do
    let shape ← filters.foldlM Filter.shape? (← term.shape? s)
    return if negated then .anything else shape

/-- Whether an expression can stand as a condition: any path, as it is false where it leads to
nothing, and the comparison of two values for equality. -/
def Expr.isCondition (s : ScopeShape) : Expr → Bool
  | .mk _ (.path _) _ => true
  | .mk _ (.comparison c left right) _ =>
    (c == .equal || c == .unequal) && (left.shape? s).isSome && (right.shape? s).isSome
  | _ => false

section Expressions

variable {shape : ScopeShape} {s : Scope} {found : Shape} {v : Value}

theorem Term.exists_value (hs : shape.Fits s) {term : Term} (h : term.shape? shape = some found)
    (negated : Bool) : ∃ v, (term.meaning s negated).value = .ok v ∧ found.Fits v := by
  -- A literal value is its own value, and nothing is known of it.
  have hliteral : ∀ v, some Shape.anything = some found → found.Fits v := by
    rintro v hshape
    obtain rfl := Option.some.inj hshape
    exact .anything v
  unfold Term.shape? at h
  split at h
  · obtain ⟨v, hv, hfits⟩ := hs.exists_find h
    exact ⟨v, by rw [Term.meaning]; exact hv, hfits⟩
  · exact ⟨_, by rw [Term.meaning], hliteral _ h⟩
  · exact ⟨_, by rw [Term.meaning], hliteral _ h⟩
  · exact ⟨_, by rw [Term.meaning], hliteral _ h⟩
  · exact ⟨_, by rw [Term.meaning], hliteral _ h⟩
  · cases h

theorem Expr.value_of_text? {e : Expr} {t : String} (h : e.text? = some t) :
    (e.meaning s).value = .ok (.text t) := by
  unfold Expr.text? at h
  split at h
  · obtain rfl := Option.some.inj h
    rw [Expr.value_mk (by rw [Term.meaning]) (by rw [Filter.fallback?]), Filter.applyAll]
    rfl
  · cases h

/-- Arguments that are texts have texts as their values. -/
theorem Filter.exists_argumentValues {arguments : List (String × Expr)}
    (h : arguments.all (·.2.text?.isSome) = true) :
    ∃ values, Filter.argumentValues s arguments = .ok values ∧
      ∀ value ∈ values, ∃ t, value.2 = .text t := by
  induction arguments with
  | nil => exact ⟨[], by rw [Filter.argumentValues], List.forall_mem_nil _⟩
  | cons first others ih =>
    obtain ⟨name, e⟩ := first
    rw [List.all_cons, Bool.and_eq_true] at h
    obtain ⟨t, ht⟩ := Option.isSome_iff_exists.mp h.1
    obtain ⟨values, hvalues, htexts⟩ := ih h.2
    refine ⟨values ++ [(name, .text t)], ?_, ?_⟩
    · rw [Filter.argumentValues, Expr.value_of_text? ht, hvalues]
      rfl
    · intro value hvalue
      rcases List.mem_append.mp hvalue with hvalue | hvalue
      · exact htexts value hvalue
      · obtain rfl := List.mem_singleton.mp hvalue
        exact ⟨t, rfl⟩

/-- Lists are joined where all arguments are texts. -/
theorem FilterRule.exists_join {arguments : List (String × Value)}
    (h : ∀ argument ∈ arguments, ∃ t, argument.2 = .text t) (items : List Value) :
    ∃ t, FilterRule.join arguments (.list items) = .ok (.text t) := by
  have hseparator : ∃ t, FilterRule.separator arguments = .ok t := by
    unfold FilterRule.separator
    cases hfound : arguments.lookup "sep" with
    | none => exact ⟨_, rfl⟩
    | some v =>
      obtain ⟨t, rfl⟩ := h _ (mem_of_lookup_eq_some hfound)
      exact ⟨_, rfl⟩
  obtain ⟨t, ht⟩ := hseparator
  exact ⟨_, by rw [FilterRule.join, ht]; rfl⟩

theorem Filter.exists_applyAll {filters : List Filter} {before : Shape}
    (h : filters.foldlM Filter.shape? before = some found) (hv : before.Fits v) :
    ∃ w, Filter.applyAll s filters v = .ok w ∧ found.Fits w := by
  induction filters generalizing before v with
  | nil =>
    obtain rfl := Option.some.inj h
    exact ⟨v, by rw [Filter.applyAll], hv⟩
  | cons filter filters ih =>
    rw [List.foldlM_cons] at h
    obtain ⟨next, hshape, h⟩ := Option.bind_eq_some_iff.mp h
    unfold Filter.shape? at hshape
    split at hshape
    · rename_i items name arguments
      split_ifs at hshape with hjoin
      obtain ⟨rfl, htexts⟩ := hjoin
      -- The value is a list, and the arguments are texts whatever the scope is.
      cases hv with
      | @list _ vs _ =>
        obtain ⟨values, hvalues, hall⟩ := Filter.exists_argumentValues (s := s) htexts
        obtain ⟨t, ht⟩ := FilterRule.exists_join hall vs
        obtain rfl := Option.some.inj hshape
        obtain ⟨w, hw, hfits⟩ := ih h (.anything (.text t))
        refine ⟨w, ?_, hfits⟩
        have hrule : FilterRule.find? "join" = some FilterRule.join := rfl
        rw [Filter.applyAll, if_neg (by decide), hrule, Option.some_or, hvalues]
        simp only [bind, Except.bind, ht]
        exact hw
    · cases hshape

/-- Nothing stands for a missing value in front of a filter that joins. -/
theorem Filter.fallback?_eq_none {filters : List Filter} {before : Shape}
    (h : filters.foldlM Filter.shape? before = some found) : Filter.fallback? s filters = none := by
  cases filters with
  | nil => rw [Filter.fallback?]
  | cons filter filters =>
    rw [List.foldlM_cons] at h
    obtain ⟨next, hshape, -⟩ := Option.bind_eq_some_iff.mp h
    unfold Filter.shape? at hshape
    split at hshape
    · split_ifs at hshape with hjoin
      rw [Filter.fallback?, hjoin.1]
      rfl
    · cases hshape

/-- **The value of an expression** is of its shape. -/
theorem Expr.exists_value (hs : shape.Fits s) {e : Expr} (h : e.shape? shape = some found) :
    ∃ v, (e.meaning s).value = .ok v ∧ found.Fits v := by
  obtain ⟨negated, term, filters⟩ := e
  obtain ⟨before, hterm, h⟩ := Option.bind_eq_some_iff.mp h
  obtain ⟨after, hfilters, h⟩ := Option.bind_eq_some_iff.mp h
  obtain ⟨v, hv, hbefore⟩ := Term.exists_value hs hterm negated
  obtain ⟨w, hw, hafter⟩ := Filter.exists_applyAll (s := s) hfilters hbefore
  rw [Expr.value_mk hv (Filter.fallback?_eq_none hfilters), hw]
  obtain rfl := Option.some.inj h
  cases negated with
  | true => exact ⟨_, rfl, .anything _⟩
  | false => exact ⟨w, rfl, hafter⟩

/-- A path is true or false as its value is, and false where it has none. -/
theorem Expr.truth_path (s : Scope) (negated : Bool) (p : Path) (filters : List Filter) :
    ((Expr.mk negated (.path p) filters).meaning s).truth =
      match ((Expr.mk negated (.path p) filters).meaning s).value with
      | .ok v => .ok v.isTruthy
      | .error _ => .ok false := by
  rw [Expr.meaning]
  rfl

/-- A condition has a truth value. -/
theorem Expr.exists_truth (hs : shape.Fits s) {e : Expr} (h : e.isCondition shape = true) :
    ∃ b, (e.meaning s).truth = .ok b := by
  unfold Expr.isCondition at h
  split at h
  · rename_i negated p filters
    rw [Expr.truth_path]
    split
    · exact ⟨_, rfl⟩
    · exact ⟨_, rfl⟩
  · rename_i negated c left right filters
    rw [Bool.and_eq_true, Bool.and_eq_true] at h
    obtain ⟨⟨hc, hleft⟩, hright⟩ := h
    obtain ⟨first, hfirst⟩ := Option.isSome_iff_exists.mp hleft
    obtain ⟨second, hsecond⟩ := Option.isSome_iff_exists.mp hright
    obtain ⟨v, hv, -⟩ := Expr.exists_value hs hfirst
    obtain ⟨w, hw, -⟩ := Expr.exists_value hs hsecond
    refine ⟨Meaning.equated negated c v w, ?_⟩
    rw [Expr.meaning, Term.meaning]
    simp only [hc, hv, hw]
    rfl
  · cases h

end Expressions

/-! ## Nodes -/

/-- The shape of the items that a loop runs over: those of a list that has a path. -/
def LoopHead.items? (s : ScopeShape) (head : LoopHead) : Option Shape := do
  if head.key.isSome then none
  else match ← s.path? (← head.container.path?) with
    | .list items => some items
    | _ => none

mutual

/-- The shape of the scope behind a node without faults. -/
def Node.behind? (s : ScopeShape) : Node → Option ScopeShape
  | .text _ => some s
  | .print e => (e.shape? s).map fun _ => s
  | .assign everywhere name e =>
    (e.shape? s).map fun value =>
      if everywhere then s.assignEverywhere name value else s.assign name value
  -- No loop is left before its last round.
  | .stop => none
  | .skip => none
  | .branch clauses => if Clause.keepAll s clauses then some s else none
  | .loop head body otherwise => do
    let items ← head.items? s
    -- One round stands for all of them, as the next one starts from the same shape.
    let within ← Node.behindAll? (s.enter head.value items) body
    let instead ← Node.behindAll? s otherwise
    if within.leave = s ∧ instead = s then some s else none

/-- The shape of the scope behind nodes without faults. -/
def Node.behindAll? (s : ScopeShape) : List Node → Option ScopeShape
  | [] => some s
  | n :: nodes => do Node.behindAll? (← Node.behind? s n) nodes

/-- Whether clauses have no faults and keep the shape of the scope. -/
def Clause.keepAll (s : ScopeShape) : List Clause → Bool
  | [] => true
  -- What comes behind a clause without a condition is never run.
  | .mk none body :: _ => Node.behindAll? s body = some s
  | .mk (some condition) body :: clauses =>
    condition.isCondition s && Node.behindAll? s body = some s && Clause.keepAll s clauses

end

/-- A run comes to its end and leaves a scope of a shape. -/
def RunsTo (shape : ScopeShape) (run : Except Fault Outcome) : Prop :=
  ∃ o, run = .ok o ∧ o.flow = .next ∧ shape.Fits o.scope

section Nodes

variable {shape : ScopeShape} {s : Scope}

/-- The rounds of a loop without keys. -/
theorem Round.of_mem_number {name : String} {index : Nat} {entries : List (String × Value)}
    {r : Round} (h : r ∈ Round.number name none index entries) :
    r.key = none ∧ r.name = name ∧ ∃ entry ∈ entries, r.value = entry.2 := by
  induction entries generalizing index with
  | nil => cases h
  | cons entry entries ih =>
    rw [Round.number] at h
    rcases List.mem_cons.mp h with rfl | h
    · exact ⟨rfl, rfl, entry, List.mem_cons_self, rfl⟩
    · obtain ⟨hkey, hname, other, hother, hvalue⟩ := ih h
      exact ⟨hkey, hname, other, List.mem_cons_of_mem _ hother, hvalue⟩

/-- A list with a path has a round for each item. -/
theorem LoopHead.exists_rounds (hs : shape.Fits s) {head : LoopHead} {items : Shape}
    (h : head.items? shape = some items) :
    ∃ rounds, head.rounds s = .ok rounds ∧
      ∀ r ∈ rounds, r.key = none ∧ r.name = head.value ∧ items.Fits r.value := by
  obtain ⟨key, name, container⟩ := head
  unfold LoopHead.items? at h
  split_ifs at h with hkey
  obtain rfl : key = none := by simpa using hkey
  obtain ⟨p, hp, hfound⟩ := Option.bind_eq_some_iff.mp h
  obtain ⟨found, hpath, hlist⟩ := Option.bind_eq_some_iff.mp hfound
  obtain rfl : container = .plain (.path p) := Expr.eq_of_path? hp
  obtain ⟨v, hfind, hfits⟩ := hs.exists_find hpath
  split at hlist
  · obtain rfl := Option.some.inj hlist
    cases hfits with
    | @list _ vs hitems =>
      refine ⟨Round.number name none 0 (vs.map ("", ·)), ?_, fun r hr => ?_⟩
      · change (do
          let entries ← LoopHead.entries _ p.spelling
            (← ((Expr.plain (.path p)).meaning s).value)
          return Round.number name none 0 entries) = _
        rw [Expr.value_path hfind]
        rfl
      · obtain ⟨hnone, hname, entry, hentry, hvalue⟩ := Round.of_mem_number hr
        obtain ⟨w, hw, rfl⟩ := List.mem_map.mp hentry
        exact ⟨hnone, hname, hvalue ▸ hitems w hw⟩
  · cases hlist

/-- Rounds run to their end where the body does in each of them. -/
theorem runsTo_runRounds {body : Scope → Except Fault Outcome} {items : Shape} {name : String}
    {within : ScopeShape} (hleave : within.leave = shape)
    (hbody : ∀ s, (shape.enter name items).Fits s → RunsTo within (body s)) (hs : shape.Fits s)
    {rounds : List Round}
    (hrounds : ∀ r ∈ rounds, r.key = none ∧ r.name = name ∧ items.Fits r.value) :
    RunsTo shape (runRounds body s rounds) := by
  -- Each round starts from the scope that the round before it leaves.
  induction rounds generalizing s with
  | nil => exact ⟨_, rfl, rfl, hs⟩
  | cons r rounds ih =>
    obtain ⟨⟨hkey, hname, hvalue⟩, hothers⟩ := List.forall_mem_cons.mp hrounds
    obtain ⟨inner, hinner, hflow, hfits⟩ := hbody _ (hs.enter hkey hname hvalue)
    obtain ⟨o, ho, hnext, hlast⟩ := ih (hleave ▸ hfits.leave) hothers
    refine ⟨o.behind inner.written, ?_, hnext, hlast⟩
    rw [runRounds, hinner]
    simp only [bind, Except.bind, hflow, ho]
    rfl

mutual

/-- **A node without faults** runs to its end. -/
theorem Node.runsTo_of_behind? {n : Node} {shape after : ScopeShape}
    (h : Node.behind? shape n = some after) {s : Scope} (hs : shape.Fits s) :
    RunsTo after (Node.run s n) := by
  cases n with
  | text t =>
    obtain rfl := Option.some.inj h
    exact ⟨_, by rw [Node.run], rfl, hs⟩
  | print e =>
    rw [Node.behind?] at h
    obtain ⟨found, he, rfl⟩ := Option.map_eq_some_iff.mp h
    obtain ⟨v, hv, -⟩ := Expr.exists_value hs he
    exact ⟨_, by rw [Node.run, hv]; rfl, rfl, hs⟩
  | assign everywhere name e =>
    rw [Node.behind?] at h
    obtain ⟨found, he, rfl⟩ := Option.map_eq_some_iff.mp h
    obtain ⟨v, hv, hfits⟩ := Expr.exists_value hs he
    refine ⟨_, by rw [Node.run, hv]; rfl, rfl, ?_⟩
    cases everywhere with
    | true => exact hs.assignEverywhere name hfits
    | false => exact hs.assign name hfits
  | stop => cases h
  | skip => cases h
  | branch clauses =>
    rw [Node.behind?] at h
    split_ifs at h with hkeep
    obtain rfl := Option.some.inj h
    rw [Node.run]
    exact Clause.runsTo_of_keepAll hkeep hs
  | loop head body otherwise =>
    rw [Node.behind?] at h
    obtain ⟨items, hitems, h⟩ := Option.bind_eq_some_iff.mp h
    obtain ⟨within, hbody, h⟩ := Option.bind_eq_some_iff.mp h
    obtain ⟨instead, hotherwise, h⟩ := Option.bind_eq_some_iff.mp h
    split_ifs at h with hkept
    obtain rfl := Option.some.inj h
    obtain ⟨hleave, rfl⟩ := hkept
    obtain ⟨rounds, hrounds, hall⟩ := LoopHead.exists_rounds hs hitems
    -- An empty list leaves the other body, and any other list its rounds.
    have hrun := runsTo_runRounds hleave
      (fun s hs => Node.runsTo_of_behindAll? hbody hs) hs hall
    rw [Node.run, hrounds]
    cases rounds with
    | nil => exact Node.runsTo_of_behindAll? hotherwise hs
    | cons r rounds => exact hrun

/-- Nodes without faults run to their end. -/
theorem Node.runsTo_of_behindAll? {nodes : List Node} {shape after : ScopeShape}
    (h : Node.behindAll? shape nodes = some after) {s : Scope} (hs : shape.Fits s) :
    RunsTo after (Node.runAll s nodes) := by
  cases nodes with
  | nil =>
    obtain rfl := Option.some.inj h
    exact ⟨_, by rw [Node.runAll], rfl, hs⟩
  | cons n nodes =>
    rw [Node.behindAll?] at h
    obtain ⟨middle, hfirst, hothers⟩ := Option.bind_eq_some_iff.mp h
    -- The others start from what the first node leaves.
    obtain ⟨first, hrun, hflow, hmiddle⟩ := Node.runsTo_of_behind? hfirst hs
    obtain ⟨o, ho, hnext, hafter⟩ := Node.runsTo_of_behindAll? hothers hmiddle
    exact ⟨o.behind first.written, Node.runAll_cons hrun hflow ho, hnext, hafter⟩

/-- Clauses without faults run to their end. -/
theorem Clause.runsTo_of_keepAll {clauses : List Clause} {shape : ScopeShape}
    (h : Clause.keepAll shape clauses = true) {s : Scope} (hs : shape.Fits s) :
    RunsTo shape (Clause.runFirst s clauses) := by
  match clauses with
  | [] => exact ⟨_, by rw [Clause.runFirst], rfl, hs⟩
  | .mk none body :: _ =>
    rw [Clause.keepAll, decide_eq_true_eq] at h
    rw [Clause.runFirst]
    exact Node.runsTo_of_behindAll? h hs
  | .mk (some condition) body :: clauses =>
    rw [Clause.keepAll, Bool.and_eq_true, Bool.and_eq_true, decide_eq_true_eq] at h
    obtain ⟨⟨hcondition, hbody⟩, hothers⟩ := h
    -- Whether the condition holds is not known, and either way the shape stays.
    obtain ⟨b, hb⟩ := Expr.exists_truth hs hcondition
    rw [Clause.runFirst, hb]
    cases b with
    | true => exact Node.runsTo_of_behindAll? hbody hs
    | false => exact Clause.runsTo_of_keepAll hothers hs

end

end Nodes

/-! ## Templates -/

/-- Whether a template has no faults for views of a shape. -/
def checks (template : String) (view : Shape) : Bool :=
  ((Node.read? template).bind (Node.behindAll? (.start viewName view))).isSome

/-- **A template that is checked** is rendered for every view of the shape. -/
theorem exists_render_of_checks {template : String} {shape : Shape} {view : Value}
    (h : checks template shape = true) (hview : shape.Fits view) :
    ∃ text, render template view = .ok text := by
  obtain ⟨after, hafter⟩ := Option.isSome_iff_exists.mp h
  obtain ⟨nodes, hnodes, hbehind⟩ := Option.bind_eq_some_iff.mp hafter
  obtain ⟨o, ho, -, -⟩ := Node.runsTo_of_behindAll? hbehind (.start viewName hview)
  exact ⟨o.written, by simp only [render, renderIn, hnodes, ho]⟩

end Stencil.Template
