import Stencil.Failure
import Stencil.Template.Meaning
import Stencil.Template.Node

/-!
# Rendering

A template is run node by node; the texts that the nodes write make up the result.

## Main definitions

* `Node.runAll`: what nodes write in a scope.
* `render`: the text of a template for a view.
* `renderWith`: the same with a library that the template can use.

## Implementation notes

Only a part of the template language is defined here: a template with tags beyond those of `Tag` is
malformed, and filters and tests beyond those of `FilterRule.find?` and `Meaning.tested` are those
of a `Library`, as all functions are.  A run renders with whatever its environment has for that, so
what is shown of all environments does not depend on the part that is defined here.
-/

namespace Stencil.Template

open Stencil.Json (Value)

/-- How a run goes on. -/
inductive Flow where
  | next
  /-- The innermost loop ends. -/
  | stop
  /-- The round of the innermost loop ends. -/
  | skip
deriving DecidableEq, Repr

/-- What running nodes leads to. -/
structure Outcome where
  scope : Scope
  written : String
  flow : Flow

namespace Outcome

/-- The outcome with a text written before it. -/
def behind (text : String) (o : Outcome) : Outcome := { o with written := text ++ o.written }

end Outcome

namespace LoopHead

/-- The container as a fault names it, none if it can be no container. -/
def containerName? (head : LoopHead) : Option String :=
  match head.container.term with
  | .path p => some p.spelling
  | .call name _ => some name
  | .list _ => some "an array literal"
  | _ => none

/-- The keys and values that a loop runs over.  A list or text has no keys. -/
def entries (head : LoopHead) (name : String) : Value → Except Fault (List (String × Value))
  | .list items =>
    if head.key.isSome then .error (.notKeyed name) else .ok (items.map ("", ·))
  | .text s =>
    if head.key.isSome then .error (.notKeyed name)
    else .ok (s.toList.map fun c => ("", .text (String.singleton c)))
  | .object members => if head.key.isSome then .ok members else .error (.lacksKey name)
  | _ => .error (.notIterable name)

/-- The rounds of a loop. -/
def rounds (head : LoopHead) (s : Scope) : Except Fault (List Round) := do
  match head.containerName? with
  | none => throw (.noContainer head.container.term.outline)
  | some name =>
    let entries ← head.entries name (← (head.container.meaning s).value)
    return Round.number head.value head.key 0 entries

end LoopHead

/-- The outcome of all rounds of a loop, each of which runs `body` in a frame of its own. -/
def runRounds (body : Scope → Except Fault Outcome) : Scope → List Round → Except Fault Outcome
  | s, [] => .ok ⟨s, "", .next⟩
  | s, round :: rounds => do
    let inner ← body (s.enter round)
    match inner.flow with
    | .stop => return ⟨inner.scope.leave, inner.written, .next⟩
    | _ => return (← runRounds body inner.scope.leave rounds).behind inner.written

/-- The end of a loop or of a round. -/
def interrupt (s : Scope) (word : String) (flow : Flow) : Except Fault Outcome :=
  if s.frames.isEmpty then .error (.outsideLoop word) else .ok ⟨s, "", flow⟩

mutual

/-- The outcome of a node. -/
def Node.run (s : Scope) : Node → Except Fault Outcome
  | .text t => .ok ⟨s, t, .next⟩
  | .print e => do return ⟨s, (← (e.meaning s).value).printed, .next⟩
  | .assign everywhere name e => do
    let value ← (e.meaning s).value
    return ⟨if everywhere then s.assignEverywhere name value else s.assign name value, "", .next⟩
  | .stop => interrupt s "break" .stop
  | .skip => interrupt s "continue" .skip
  | .branch clauses => Clause.runFirst s clauses
  | .loop head body otherwise => do
    match ← head.rounds s with
    | [] => Node.runAll s otherwise
    | rounds => runRounds (fun s => Node.runAll s body) s rounds

/-- The outcome of nodes one after the other. -/
def Node.runAll (s : Scope) : List Node → Except Fault Outcome
  | [] => .ok ⟨s, "", .next⟩
  | n :: nodes => do
    let first ← Node.run s n
    match first.flow with
    | .next => return (← Node.runAll first.scope nodes).behind first.written
    | _ => return first

/-- The outcome of the first clause whose condition holds. -/
def Clause.runFirst (s : Scope) : List Clause → Except Fault Outcome
  | [] => .ok ⟨s, "", .next⟩
  | .mk none body :: _ => Node.runAll s body
  | .mk (some condition) body :: clauses => do
    if ← (condition.meaning s).truth then Node.runAll s body else Clause.runFirst s clauses

end

/-- The name under which a template finds its view. -/
def viewName : String := "Model"

/-- The text of a template in a scope. -/
def renderIn (s : Scope) (template : String) : Except RenderFault String :=
  match Node.read? template with
  | none => .error .malformed
  | some nodes =>
    match Node.runAll s nodes with
    | .ok o => .ok o.written
    | .error fault => .error (.evaluation fault.message)

/-- What makes a text of a template and a view. -/
abbrev Engine := String → Value → Except RenderFault String

/-- The text of a template for a view. -/
def render : Engine := fun template view => renderIn (.start viewName view) template

/-- The text of a template that can use a library. -/
def renderWith (library : Library) : Engine := fun template view =>
  renderIn ((Scope.start viewName view).withLibrary library) template

end Stencil.Template
