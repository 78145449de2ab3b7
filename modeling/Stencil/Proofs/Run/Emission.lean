import Stencil.Proofs.Run.Outcome
import Stencil.Run.Generate

/-!
# Units one after the other

A unit is rendered, the output folder is made, and the text goes to its file; each of the three
can fail. Units are emitted in their order up to the first that fails, and what was emitted
before that one stays.

## Main definitions

* `Renders`: the text that a unit is rendered as, with the template file of a storage
* `Emits`, `Fails`: a unit that is emitted, and one that fails, each with what it leaves
* `EmitsAll`: units that are emitted one after the other

## Main results

* `outcome_emitUnits_of_emitsAll`, `outcome_emitUnits_of_fails`: what comes of several units
* `emitsAll_or_fails`: all units are emitted or there is a first one that fails
-/

namespace Stencil

namespace RenderUnit

/-- The path of the template file for a unit. -/
def templatePath (u : RenderUnit) (o : Options) : String := (Renderer.ofOptions o).path u.role

/-- The path of the file for a unit. -/
def target (u : RenderUnit) (o : Options) (extension : String) : String :=
  (Emitter.ofOptions o).target u.name extension

end RenderUnit

section Emission

variable (environment : Environment (StateM Storage)) (o : Options) (extension : String)

/-! ## What a unit does -/

/-- A unit is rendered as a text, with what its template file holds. -/
def Renders (storage : Storage) (u : RenderUnit) (text : String) : Prop :=
  ∃ template, (environment.readText (u.templatePath o) storage).1 = .ok template ∧
    (environment.render template u.view storage).1 = .ok text

/-- A text put into the file for a unit. The one file for all units keeps what it holds. -/
def save (u : RenderUnit) (text : String) : StateM Storage (Except FileFault Unit) :=
  if o.singleFile.isSome then environment.appendFile (u.target o extension) text
  else environment.writeFile (u.target o extension) text

/-- A unit is emitted with a text. -/
inductive Emits (before : Storage) (u : RenderUnit) (text : String) (after : Storage) : Prop
  | intro {made : Storage} (rendered : Renders environment o before u text)
      (folders : environment.makeFolders o.outputFolder before = (.ok (), made))
      (saved : save environment o extension u text made = (.ok (), after))

/-- A unit fails where its template file is read, where it is rendered, where the output folder
is made or where its text is saved. -/
inductive Fails (before : Storage) (u : RenderUnit) : Failure → Storage → Prop
  | read {fault : FileFault}
      (refused : (environment.readText (u.templatePath o) before).1 = .error fault) :
      Fails before u (Renderer.readFailure (u.templatePath o) fault) before
  | render {template : String} {fault : RenderFault}
      (found : (environment.readText (u.templatePath o) before).1 = .ok template)
      (refused : (environment.render template u.view before).1 = .error fault) :
      Fails before u (.render (u.templatePath o) fault) before
  | folders {text : String} {fault : FileFault} {made : Storage}
      (rendered : Renders environment o before u text)
      (refused : environment.makeFolders o.outputFolder before = (.error fault, made)) :
      Fails before u (.fileAccess o.outputFolder fault.message) made
  | save {text : String} {fault : FileFault} {made : Storage}
      (rendered : Renders environment o before u text)
      (folders : environment.makeFolders o.outputFolder before = (.ok (), made))
      (refused : save environment o extension u text made = (.error fault, made)) :
      Fails before u (.fileAccess (u.target o extension) fault.message) made

/-- Units are emitted one after the other, each with a text. -/
inductive EmitsAll : Storage → List (RenderUnit × String) → Storage → Prop
  | nil (storage : Storage) : EmitsAll storage [] storage
  | cons {before middle after : Storage} {u : RenderUnit} {text : String}
      {emitted : List (RenderUnit × String)}
      (first : Emits environment o extension before u text middle)
      (others : EmitsAll middle emitted after) : EmitsAll before ((u, text) :: emitted) after

variable {environment o extension} {before middle after : Storage} {u : RenderUnit}

/-! ## One unit -/

theorem render_ofOptions (environment : Environment (StateM Storage)) (o : Options)
    (u : RenderUnit) :
    (Renderer.ofOptions o).render environment u.role u.view =
      (do
        let template ← attempt (Renderer.readFailure (u.templatePath o))
          (environment.readText (u.templatePath o))
        attempt (.render (u.templatePath o)) (environment.render template u.view)) := rfl

/-- A unit is rendered as is said here if its template file holds a known template. -/
theorem renders_of_isKnown (hknown : environment.RendersKnown) {template text : String}
    (hread : (environment.readText (u.templatePath o) before).1 = .ok template)
    (htemplate : Template.isKnown template = true)
    (hrender : Template.render template u.view = .ok text) : Renders environment o before u text :=
  ⟨template, hread, hknown template u.view before text htemplate hrender⟩

theorem emit_ofOptions (environment : Environment (StateM Storage)) (o : Options)
    (extension : String) (u : RenderUnit) (text : String) :
    (Emitter.ofOptions o).emit environment text u.name extension =
      (do
        attempt (fun fault => .fileAccess o.outputFolder fault.message)
          (environment.makeFolders o.outputFolder)
        attempt (fun fault => .fileAccess (u.target o extension) fault.message)
          (save environment o extension u text)
        return u.target o extension) := rfl

section OneUnit

variable (hcareful : environment.Careful)
include hcareful

theorem eq_readText (path : String) (storage : Storage) :
    environment.readText path storage = ((environment.readText path storage).1, storage) :=
  Prod.ext rfl (hcareful.readText path storage)

theorem eq_render (template : String) (view : Json.Value) (storage : Storage) :
    environment.render template view storage =
      ((environment.render template view storage).1, storage) :=
  Prod.ext rfl (hcareful.render template view storage)

theorem eq_of_save_error {text : String} {fault : FileFault}
    (h : save environment o extension u text before = (.error fault, after)) :
    after = before := by
  unfold save at h
  split at h
  · exact hcareful.appendFile _ _ _ _ _ h
  · exact hcareful.writeFile _ _ _ _ _ h

theorem outcome_render_of_renders {text : String} (h : Renders environment o before u text) :
    outcome ((Renderer.ofOptions o).render environment u.role u.view) before =
      (.ok text, before) := by
  obtain ⟨template, hread, hrender⟩ := h
  have hstep := eq_readText hcareful (u.templatePath o) before
  have hlast := eq_render hcareful template u.view before
  rw [hread] at hstep
  rw [hrender] at hlast
  rw [render_ofOptions, outcome_bind_of_ok (outcome_attempt_of_ok hstep _),
    outcome_attempt_of_ok hlast]

/-- A rendered text is written behind the output folder. -/
theorem outcome_emitUnit_of_renders {text : String} (h : Renders environment o before u text) :
    outcome (emitUnit environment o extension u) before =
      outcome ((Emitter.ofOptions o).emit environment text u.name extension) before := by
  rw [emitUnit, outcome_bind_of_ok (outcome_render_of_renders hcareful h)]

theorem outcome_emitUnit_of_emits {text : String}
    (h : Emits environment o extension before u text after) :
    outcome (emitUnit environment o extension u) before = (.ok (u.target o extension), after) := by
  obtain ⟨hrenders, hfolders, hsaved⟩ := h
  rw [outcome_emitUnit_of_renders hcareful hrenders, emit_ofOptions,
    outcome_bind_of_ok (outcome_attempt_of_ok hfolders _),
    outcome_bind_of_ok (outcome_attempt_of_ok hsaved _)]
  rfl

theorem outcome_emitUnit_of_fails {failure : Failure}
    (h : Fails environment o extension before u failure after) :
    outcome (emitUnit environment o extension u) before = (.error failure, after) := by
  cases h with
  -- the template file cannot be read
  | @read fault refused =>
    have hstep := eq_readText hcareful (u.templatePath o) before
    rw [refused] at hstep
    have hrender : outcome ((Renderer.ofOptions o).render environment u.role u.view) before =
        (.error (Renderer.readFailure (u.templatePath o) fault), before) := by
      rw [render_ofOptions, outcome_bind_of_error (outcome_attempt_of_error hstep _)]
    rw [emitUnit, outcome_bind_of_error hrender]
  -- the template file is read and cannot be rendered
  | @render template fault found refused =>
    have hstep := eq_readText hcareful (u.templatePath o) before
    have hlast := eq_render hcareful template u.view before
    rw [found] at hstep
    rw [refused] at hlast
    have hrender : outcome ((Renderer.ofOptions o).render environment u.role u.view) before =
        (.error (.render (u.templatePath o) fault), before) := by
      rw [render_ofOptions, outcome_bind_of_ok (outcome_attempt_of_ok hstep _),
        outcome_attempt_of_error hlast]
    rw [emitUnit, outcome_bind_of_error hrender]
  -- the text is there, and no folder for it
  | folders rendered refused =>
    rw [outcome_emitUnit_of_renders hcareful rendered, emit_ofOptions,
      outcome_bind_of_error (outcome_attempt_of_error refused _)]
  -- text and folder are there, and the file cannot be written
  | save rendered folders refused =>
    rw [outcome_emitUnit_of_renders hcareful rendered, emit_ofOptions,
      outcome_bind_of_ok (outcome_attempt_of_ok folders _),
      outcome_bind_of_error (outcome_attempt_of_error refused _)]

/-- A unit is emitted or fails. -/
theorem emits_or_fails (o : Options) (extension : String) (before : Storage) (u : RenderUnit) :
    (∃ text after, Emits environment o extension before u text after) ∨
      ∃ failure after, Fails environment o extension before u failure after := by
  -- The steps are taken in their order, each with the results of those before it.
  cases hread : (environment.readText (u.templatePath o) before).1 with
  | error fault => exact Or.inr ⟨_, _, .read hread⟩
  | ok template =>
    cases hrender : (environment.render template u.view before).1 with
    | error fault => exact Or.inr ⟨_, _, .render hread hrender⟩
    | ok text =>
      have hrenders : Renders environment o before u text := ⟨template, hread, hrender⟩
      rcases hfolders : environment.makeFolders o.outputFolder before with ⟨fault | _, made⟩
      · exact Or.inr ⟨_, _, .folders hrenders hfolders⟩
      · rcases hsaved : save environment o extension u text made with ⟨fault | _, after⟩
        · obtain rfl : after = made := eq_of_save_error hcareful hsaved
          exact Or.inr ⟨_, _, .save hrenders hfolders hsaved⟩
        · exact Or.inl ⟨text, after, hrenders, hfolders, hsaved⟩

/-- A unit that fails leaves new folders at most. -/
theorem Fails.gainsFolders {failure : Failure}
    (h : Fails environment o extension before u failure after) :
    before.GainsFolders o.outputFolder after := by
  have hmade := hcareful.makeFolders o.outputFolder before
  cases h with
  | read | render => exact .refl _ _
  | folders _ refused => rwa [refused] at hmade
  | save _ folders _ => rwa [folders] at hmade

end OneUnit

/-! ## Several units -/

section Units

variable (hcareful : environment.Careful) {emitted : List (RenderUnit × String)}
include hcareful

theorem outcome_emitUnits_append
    (h : EmitsAll environment o extension before emitted middle) (units : List RenderUnit) :
    outcome (emitUnits environment o extension (emitted.map (·.1) ++ units)) before =
      outcome (do
        let paths ← emitUnits environment o extension units
        return emitted.map (·.1.target o extension) ++ paths) middle := by
  -- Induction on what has been emitted; the units behind it start from what it leaves.
  induction h with
  | nil storage =>
    rw [List.map_nil, List.nil_append, outcome_bind]
    rcases outcome (emitUnits environment o extension units) storage with ⟨_ | paths, after⟩ <;> rfl
  | @cons before middle after u text emitted first others ih =>
    rw [List.map_cons, List.cons_append, emitUnits,
      outcome_bind_of_ok (outcome_emitUnit_of_emits hcareful first), outcome_bind, ih, outcome_bind,
      outcome_bind]
    rcases outcome (emitUnits environment o extension units) after with ⟨_ | paths, last⟩ <;> rfl

/-- **Units that are all emitted** give the paths of their files. -/
theorem outcome_emitUnits_of_emitsAll
    (h : EmitsAll environment o extension before emitted after) :
    outcome (emitUnits environment o extension (emitted.map (·.1))) before =
      (.ok (emitted.map (·.1.target o extension)), after) := by
  have happend := outcome_emitUnits_append hcareful h []
  rw [List.append_nil] at happend
  rw [happend, emitUnits, pure_bind, outcome_pure, List.append_nil]

/-- **The first unit that fails** ends the emission with its failure. -/
theorem outcome_emitUnits_of_fails {failure : Failure} (units : List RenderUnit)
    (h : EmitsAll environment o extension before emitted middle)
    (hfails : Fails environment o extension middle u failure after) :
    outcome (emitUnits environment o extension (emitted.map (·.1) ++ u :: units)) before =
      (.error failure, after) := by
  rw [outcome_emitUnits_append hcareful h, emitUnits]
  refine outcome_bind_of_error (outcome_bind_of_error ?_ _) _
  exact outcome_emitUnit_of_fails hcareful hfails

/-- All units are emitted or there is a first one that fails. -/
theorem emitsAll_or_fails (o : Options) (extension : String) (before : Storage)
    (units : List RenderUnit) :
    (∃ emitted after, emitted.map (·.1) = units ∧
        EmitsAll environment o extension before emitted after) ∨
      ∃ emitted u others middle failure after, units = emitted.map (·.1) ++ u :: others ∧
        EmitsAll environment o extension before emitted middle ∧
        Fails environment o extension middle u failure after := by
  -- Induction on the units: the others start from what the first one leaves.
  induction units generalizing before with
  | nil => exact Or.inl ⟨[], before, rfl, .nil before⟩
  | cons u units ih =>
    rcases emits_or_fails hcareful o extension before u with
      ⟨text, middle, hfirst⟩ | ⟨failure, after, hfails⟩
    · rcases ih middle with ⟨emitted, after, rfl, hall⟩ |
        ⟨emitted, v, others, last, failure, after, rfl, hall, hfails⟩
      · exact Or.inl ⟨(u, text) :: emitted, after, rfl, .cons hfirst hall⟩
      · exact Or.inr ⟨(u, text) :: emitted, v, others, last, failure, after, rfl,
          .cons hfirst hall, hfails⟩
    · exact Or.inr ⟨[], u, units, before, failure, after, rfl, .nil before, hfails⟩

end Units

end Emission

end Stencil
