import Stencil.Client.Descriptor
import Stencil.Proofs.Keyed
import Stencil.Template.Render

/-!
# Paths, expressions and nodes

A path without brackets is looked up as the trail that it spells. Where it leads to a value, that
is the value of the path as an expression. A node that runs to its end leaves the nodes behind it
to be run.

## Main definitions

* `Path.isPlain p`: a path is spelled with dots only, and it is not the name of the overview
* `Path.trail p`: the trail that a plain path spells

## Main results

* `Client.lookup_record`: the members of a record
* `Scope.find_of_lookup?`: what a plain path leads to
* `Expr.value_mk`: the value of an expression from that of its term
* `Node.runAll_cons`: a node that runs to its end, and those behind it
-/

namespace Stencil

open Json (Value)

/-- The members of a record are those it was made from. -/
theorem Client.lookup_record {members : List (String × Value)} {member : String × Value}
    (hkeys : (members.map (·.1)).Nodup) (hmember : member ∈ members) :
    (Keyed.ofList members).lookup member.1 = some member.2 := by
  -- Of equal names the last would count, and there are none.
  rw [Keyed.lookup_ofList]
  refine lookup_eq_some_of_mem ?_ (List.mem_reverse.mpr hmember)
  rw [List.map_reverse]
  exact List.nodup_reverse.mpr hkeys

namespace Template

/-! ## Paths -/

namespace Path

/-- A path is spelled with dots only, and it is not the name of the overview. -/
def isPlain (p : Path) : Bool :=
  p.spelling != Scope.overviewName && !hasBrackets p.spelling.toList

/-- The trail that a plain path spells. -/
def trail (p : Path) : Trail := .ofPlain p.spelling.toList

end Path

variable {s : Scope} {p : Path} {v : Value}

/-- **A plain path** leads to what its trail leads to. -/
theorem Scope.find_of_lookup? (hplain : p.isPlain = true) (hfound : s.lookup? p.trail = some v) :
    s.find p = .ok v := by
  rw [Path.isPlain, Bool.and_eq_true, bne_iff_ne, Bool.not_eq_true'] at hplain
  obtain ⟨hname, hbrackets⟩ := hplain
  rw [Scope.find, if_neg hname, Scope.findSpelled, hbrackets, if_neg Bool.false_ne_true]
  have hspelled : s.lookup? (.ofPlain p.spelling.toList) = some v := hfound
  rw [hspelled]

/-! ## Expressions -/

/-- The path that an expression is, with nothing around it. -/
def Expr.path? : Expr → Option Path
  | .mk false (.path p) [] => some p
  | _ => none

theorem Expr.eq_of_path? {e : Expr} {p : Path} (h : e.path? = some p) :
    e = .plain (.path p) := by
  unfold Expr.path? at h
  split at h
  · rw [Option.some.inj h, Expr.plain]
  · cases h

/-- **The value of an expression** is what its filters make of the value of its term, unless the
first filter says what stands for a missing value. -/
theorem Expr.value_mk {negated : Bool} {term : Term} {filters : List Filter}
    (hvalue : (term.meaning s negated).value = .ok v)
    (hfallback : Filter.fallback? s filters = none) :
    ((Expr.mk negated term filters).meaning s).value = (do
      let v ← Filter.applyAll s filters v
      return if negated then .boolean !v.isTruthy else v) := by
  rw [Expr.meaning]
  simp only [hvalue, hfallback]
  -- Null counts as missing only where something stands for it.
  cases term.isPath with
  | false => rfl
  | true => cases v <;> rfl

theorem Expr.value_path (hfound : s.find p = .ok v) :
    ((Expr.plain (.path p)).meaning s).value = .ok v := by
  have hterm : ((Term.path p).meaning s false).value = .ok v := by
    rw [Term.meaning]
    exact hfound
  rw [Expr.plain, Expr.value_mk hterm (by rw [Filter.fallback?]), Filter.applyAll]
  rfl

/-! ## Nodes -/

/-- **A node that runs to its end** writes its text before that of the nodes behind it. -/
theorem Node.runAll_cons {n : Node} {nodes : List Node} {first others : Outcome}
    (hfirst : Node.run s n = .ok first) (hflow : first.flow = .next)
    (hothers : Node.runAll first.scope nodes = .ok others) :
    Node.runAll s (n :: nodes) = .ok (others.behind first.written) := by
  rw [Node.runAll, hfirst]
  simp only [bind, Except.bind, hflow, hothers]
  rfl

end Template

end Stencil
