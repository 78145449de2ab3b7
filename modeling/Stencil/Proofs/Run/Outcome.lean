import Stencil.Proofs.Storage.Folder
import Stencil.Proofs.Template.Known
import Stencil.Run.Environment

/-!
# Outcomes

A program over states makes of a state a result and another state. A failure ends the program with
the state as it is then. The states are storages, or whatever else a run can look at and change.

## Main definitions

* `outcome program state`: the result of a program and the state that it leaves
* `Environment.Careful`: what is read or rendered changes nothing, nor does a write that fails,
  and only folders are made
* `Environment.RendersKnown`: known templates are rendered as is said here

## Main results

* `outcome_bind`: a program behind another one
* `Storage.careful_environment`: the environment of a storage is careful
* `Storage.rendersKnown_environment`: it renders known templates, whichever library they can use
-/

namespace Stencil

/-- The result of a program and the state that it leaves. -/
def outcome {S α : Type} (program : ExceptT Failure (StateM S) α) (before : S) :
    Except Failure α × S := program.run before

section Programs

variable {S α β ε : Type} {before after : S}

theorem outcome_pure (x : α) (before : S) : outcome (pure x) before = (.ok x, before) := rfl

/-- A result that is there from the start changes nothing. -/
theorem outcome_mk {given result : Except Failure α} (h : given = result) (before : S) :
    outcome (ExceptT.mk (pure given)) before = (result, before) := by
  rw [← h]
  rfl

theorem exists_outcome_eq {program : ExceptT Failure (StateM S) α} {before : S}
    {result : Except Failure α} (h : (outcome program before).1 = result) :
    ∃ after, outcome program before = (result, after) :=
  ⟨(outcome program before).2, Prod.ext h rfl⟩

/-- A program behind another one starts with the result and the state of that one, unless that one
fails. -/
theorem outcome_bind (program : ExceptT Failure (StateM S) α)
    (next : α → ExceptT Failure (StateM S) β) (before : S) :
    outcome (program >>= next) before =
      match outcome program before with
      | (.ok x, after) => outcome (next x) after
      | (.error failure, after) => (.error failure, after) := by
  change ExceptT.bindCont next (outcome program before).1 (outcome program before).2 = _
  rcases outcome program before with ⟨_ | x, after⟩ <;> rfl

theorem outcome_bind_of_ok {program : ExceptT Failure (StateM S) α} {x : α}
    (h : outcome program before = (.ok x, after))
    (next : α → ExceptT Failure (StateM S) β) :
    outcome (program >>= next) before = outcome (next x) after := by
  rw [outcome_bind, h]

theorem outcome_bind_of_error {program : ExceptT Failure (StateM S) α} {failure : Failure}
    (h : outcome program before = (.error failure, after))
    (next : α → ExceptT Failure (StateM S) β) :
    outcome (program >>= next) before = (.error failure, after) := by
  rw [outcome_bind, h]

/-- What is made of a result changes neither a failure nor what is left. -/
theorem outcome_map (f : α → β) (program : ExceptT Failure (StateM S) α) (before : S) :
    outcome (f <$> program) before =
      ((outcome program before).1.map f, (outcome program before).2) := by
  rw [map_eq_pure_bind, outcome_bind]
  rcases outcome program before with ⟨_ | x, after⟩ <;> rfl

/-- A step outside keeps its state, and its fault is named as a failure. -/
theorem outcome_attempt (failure : ε → Failure) (step : StateM S (Except ε α)) (before : S) :
    outcome (attempt failure step) before =
      (((step before).1.mapError failure), (step before).2) := by
  unfold outcome attempt
  simp only [ExceptT.run, ExceptT.mk, bind, StateT.bind]
  rcases step before with ⟨_ | x, after⟩ <;> rfl

theorem outcome_attempt_of_ok {step : StateM S (Except ε α)} {x : α}
    (h : step before = (.ok x, after)) (failure : ε → Failure) :
    outcome (attempt failure step) before = (.ok x, after) := by
  rw [outcome_attempt, h]
  rfl

theorem outcome_attempt_of_error {step : StateM S (Except ε α)} {fault : ε}
    (h : step before = (.error fault, after)) (failure : ε → Failure) :
    outcome (attempt failure step) before = (.error (failure fault), after) := by
  rw [outcome_attempt, h]
  rfl

end Programs

/-! ## Careful environments -/

/-- An environment in which nothing is changed by what is read or rendered, nor by a write that
fails, and in which only folders on the way along their path are made. -/
structure Environment.Careful (environment : Environment (StateM Storage)) : Prop where
  readText : ∀ path (storage : Storage), (environment.readText path storage).2 = storage
  fetch : ∀ url credentials (storage : Storage),
    (environment.fetch url credentials storage).2 = storage
  writeFile : ∀ path text (storage : Storage) fault after,
    environment.writeFile path text storage = (.error fault, after) → after = storage
  appendFile : ∀ path text (storage : Storage) fault after,
    environment.appendFile path text storage = (.error fault, after) → after = storage
  makeFolders : ∀ path (storage : Storage),
    storage.GainsFolders path (environment.makeFolders path storage).2
  render : ∀ template view (storage : Storage),
    (environment.render template view storage).2 = storage

/-- An environment in which known templates are rendered as is said here. What others are rendered
as can depend on whatever there is outside. -/
def Environment.RendersKnown (environment : Environment (StateM Storage)) : Prop :=
  ∀ template view (storage : Storage) text, Template.isKnown template = true →
    Template.render template view = .ok text →
    (environment.render template view storage).1 = .ok text

namespace Storage

theorem eq_of_update_error {change : Storage → Except FileFault Storage} {storage after : Storage}
    {fault : FileFault} (h : update change storage = (.error fault, after)) : after = storage := by
  unfold update at h
  split at h
  · cases h
  · exact (Prod.mk.inj h).2.symm

theorem change_of_update_ok {change : Storage → Except FileFault Storage} {storage after : Storage}
    (h : update change storage = (.ok (), after)) : change storage = .ok after := by
  unfold update at h
  split at h
  · rename_i changed hchanged
    rw [hchanged, (Prod.mk.inj h).2]
  · cases h

/-- **The environment of a storage** is careful, whatever is on the web and in whatever way
templates are rendered. -/
theorem careful_environment (web : Address.Url → Option Credentials → Except String String)
    (engine : Template.Engine := Template.render) : (environment web engine).Careful where
  readText _ _ := rfl
  fetch _ _ _ := rfl
  writeFile path text _ _ _ h := @eq_of_update_error (·.writeFile path text) _ _ _ h
  appendFile path text _ _ _ h := @eq_of_update_error (·.appendFile path text) _ _ _ h
  makeFolders path storage := gainsFolders_makeFolders storage path
  render _ _ _ := rfl

/-- **Known templates** are rendered the same whichever library they can use. -/
theorem rendersKnown_environment
    (web : Address.Url → Option Credentials → Except String String)
    (library : Template.Library) :
    (environment web (Template.renderWith library)).RendersKnown := by
  intro template view storage text hknown hrender
  exact (Template.renderWith_of_isKnown library hknown view).trans hrender

end Storage

end Stencil
