import Stencil.Template.Piece
import Stencil.Template.Tag

/-!
# Nodes of a template

The pieces of a template nest into a tree: branches hold clauses, loops hold a body and
possibly what stands for an empty loop.

## Main definitions

* `Body.trimmed`: the nodes of a body without the blanks that its tags drop.
* `Node.ofPieces?`: the nodes of a template, if all tags nest.
* `Node.read?`: the nodes of a template text.

## Implementation notes

Blanks are dropped in the text right before or behind a tag.  In a loop with an `else`, the
end tag trims the end of the main body, and in the other body nothing is trimmed at all, also
not deeper inside.
-/

namespace Stencil.Template

open Stencil.Text (trimStart trimEnd)

mutual

/-- A part of a template. -/
inductive Node where
  | text (s : String)
  | print (e : Expr)
  /-- An assignment, `everywhere` beyond the loop around it. -/
  | assign (everywhere : Bool) (name : String) (value : Expr)
  /-- The end of the loop. -/
  | stop
  /-- The end of this round of the loop. -/
  | skip
  | branch (clauses : List Clause)
  /-- A loop; `otherwise` stands for it if there is nothing to run over. -/
  | loop (head : LoopHead) (body otherwise : List Node)

/-- A body under a condition, or under none. -/
inductive Clause where
  | mk (condition : Option Expr) (body : List Node)

end

/-! ## Bodies -/

/-- An element of a body that is still to be trimmed. -/
inductive Element where
  | text (cs : List Char)
  /-- A node and which blanks beside it are dropped. -/
  | node (trim : Trim) (n : Node)
  /-- A comment. -/
  | comment (trim : Trim)

namespace Element

/-- Whether blanks before the element are dropped. -/
def trimsBefore : Element → Bool
  | text _ => false
  | node trim _ => trim.before
  | comment trim => trim.before

end Element

namespace Body

/-- A text as a node, none if nothing is left of it. -/
def textNode (cs : List Char) : List Node :=
  if cs.isEmpty then [] else [.text (String.ofList cs)]

/-- A text without the blanks at the chosen ends. -/
def trimText (before after : Bool) (cs : List Char) : List Char :=
  let cs := if before then trimStart cs else cs
  if after then trimEnd cs else cs

/-- The nodes of a body.  `before` says whether blanks at its start are dropped, `after`
whether those at its end are. -/
def trimmed (before after : Bool) : List Element → List Node
  | [] => []
  | .text cs :: rest =>
    let next := match rest with
      | [] => after
      | element :: _ => element.trimsBefore
    textNode (trimText before next cs) ++ trimmed false after rest
  | .node trim n :: rest => n :: trimmed trim.after after rest
  | .comment trim :: rest => trimmed trim.after after rest

/-- The nodes of a body in which no blanks are dropped. -/
def untrimmed : List Element → List Node
  | [] => []
  | .text cs :: rest => textNode cs ++ untrimmed rest
  | .node _ n :: rest => n :: untrimmed rest
  | .comment _ :: rest => untrimmed rest

end Body

/-! ## Nesting -/

/-- A tag whose end tag has not come yet. -/
inductive Opening where
  /-- A clause of a branch behind other clauses; `trim` says which blanks are dropped before
  the branch and at the start of the clause. -/
  | clause (trim : Trim) (done : List Clause) (condition : Option Expr)
  | loop (trim : Trim) (head : LoopHead)
  /-- The part of a loop behind `else`, with the elements before it. -/
  | emptyLoop (trim : Trim) (head : LoopHead) (body : List Element)

namespace Opening

/-- Whether a round of a loop can be ended inside. -/
def isLoop : Opening → Bool
  | clause .. => false
  | loop .. => true
  | emptyLoop .. => true

/-- Whether blanks are kept inside. -/
def keepsBlanks : Opening → Bool
  | clause .. => false
  | loop .. => false
  | emptyLoop .. => true

end Opening

/-- An opening tag and the elements before it, the last one first. -/
structure Level where
  opening : Opening
  before : List Element

namespace Level

/-- Whether blanks are kept inside the levels. -/
def keepBlanks (levels : List Level) : Bool := levels.any (·.opening.keepsBlanks)

/-- The nodes of a body that ends inside the levels; its elements come with the last one
first. -/
def body (levels : List Level) (before after : Bool) (elements : List Element) : List Node :=
  if keepBlanks levels then Body.untrimmed elements.reverse
  else Body.trimmed before after elements.reverse

/-- The levels behind a tag that ends one clause of a branch and opens the next one. -/
def nextClause? (levels : List Level) (elements : List Element) (trim : Trim)
    (condition : Option Expr) : Option (List Level × List Element) :=
  match levels with
  | ⟨.clause opened done (some first), before⟩ :: levels =>
    let last := Clause.mk (some first) (body levels opened.after trim.before elements)
    let opening := Opening.clause ⟨opened.before, trim.after⟩ (done ++ [last]) condition
    some (⟨opening, before⟩ :: levels, [])
  | _ => none

/-- What a tag does to the open levels and the elements since the innermost one. -/
def enter? (levels : List Level) (elements : List Element) (trim : Trim) :
    Tag → Option (List Level × List Element)
  | .branch condition => some (⟨.clause trim [] (some condition), elements⟩ :: levels, [])
  | .otherBranch condition => nextClause? levels elements trim (some condition)
  | .otherwise =>
    match levels with
    | ⟨.loop opened head, before⟩ :: levels =>
      some (⟨.emptyLoop opened head elements, before⟩ :: levels, [])
    -- Of several parts behind `else` the last one counts.
    | ⟨.emptyLoop opened head body, before⟩ :: levels =>
      some (⟨.emptyLoop opened head body, before⟩ :: levels, [])
    | _ => nextClause? levels elements trim none
  | .endBranch =>
    match levels with
    | ⟨.clause opened done condition, before⟩ :: levels =>
      let last := Clause.mk condition (body levels opened.after trim.before elements)
      let node := Node.branch (done ++ [last])
      some (levels, .node ⟨opened.before, trim.after⟩ node :: before)
    | _ => none
  | .loop head => some (⟨.loop trim head, elements⟩ :: levels, [])
  | .endLoop =>
    match levels with
    | ⟨.loop opened head, before⟩ :: levels =>
      let node := Node.loop head (body levels opened.after trim.before elements) []
      some (levels, .node ⟨opened.before, trim.after⟩ node :: before)
    | ⟨.emptyLoop opened head main, before⟩ :: levels =>
      let node := Node.loop head (body levels opened.after trim.before main)
        (Body.untrimmed elements.reverse)
      some (levels, .node ⟨opened.before, trim.after⟩ node :: before)
    | _ => none
  | .assign everywhere name value =>
    some (levels, .node trim (.assign everywhere name value) :: elements)
  | .stop =>
    if levels.any (·.opening.isLoop) then some (levels, .node trim .stop :: elements) else none
  | .skip =>
    if levels.any (·.opening.isLoop) then some (levels, .node trim .skip :: elements) else none

end Level

namespace Node

/-- The nodes of a template from the open levels, the elements since the innermost one, and
the pieces that follow. -/
def nest? (levels : List Level) (elements : List Element) : List Piece → Option (List Node)
  | [] => if levels.isEmpty then some (Body.trimmed false false elements.reverse) else none
  | .text cs :: pieces => nest? levels (.text cs :: elements) pieces
  | .delimited .print trim inside :: pieces => do
    let e ← Reader.whole? Grammar.assigned inside
    nest? levels (.node trim (.print e) :: elements) pieces
  | .delimited .tag trim inside :: pieces => do
    let (levels, elements) ← Level.enter? levels elements trim (← Tag.read? inside)
    nest? levels elements pieces
  | .comment trim :: pieces => nest? levels (.comment trim :: elements) pieces
  | .raw start cs finish :: pieces =>
    let trims := !Level.keepBlanks levels
    let kept := Body.trimText (trims && start.after) (trims && finish.before) cs
    let node := Node.text (String.ofList kept)
    nest? levels (.node ⟨start.before, finish.after⟩ node :: elements) pieces

/-- Whether a piece is a comment. -/
def isComment : Piece → Bool
  | .comment _ => true
  | _ => false

/-- The nodes that pieces form, if all tags nest.  Comments at the very start drop no
blanks. -/
def ofPieces? (pieces : List Piece) : Option (List Node) :=
  nest? [] [] (pieces.dropWhile isComment)

/-- The nodes of a template. -/
def read? (template : String) : Option (List Node) := do ofPieces? (← Piece.split? template)

end Node

end Stencil.Template
