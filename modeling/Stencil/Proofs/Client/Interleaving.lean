import Stencil.Client.Conversion

/-!
# Calls on one converter

Names may be registered and descriptors read in any order and any number of times. A table that is
stored is the one that a reading before would have made for itself, so that every reading of the
models gives the same descriptors, and so does every reading of the groups of operations.

## Main definitions

* `Converter.Call`, `Converter.Answer`: a call on a converter, and what comes back
* `Converter.run calls c`: the converter behind a list of calls, and the answers to them
* `Converter.Converts language declaration c`: what the calls on a converter leave as it is

## Main results

* `Converter.Converts.perform`, `Converter.Converts.run`: one call, and any list of calls
* `Converter.answers_eq`: every reading gives the descriptors under the same names
-/

namespace Stencil

namespace Converter

open Client

/-- A call on a converter. -/
inductive Call where
  /-- Register the names. -/
  | register
  /-- Read the descriptors of the models. -/
  | models
  /-- Read the descriptors of the groups of operations. -/
  | apis
  deriving DecidableEq, Repr

/-- What comes back from a call. -/
inductive Answer where
  | registered
  | models (descriptors : List ModelDescriptor)
  | apis (descriptors : List ApiDescriptor)

/-- The converter behind a call, and the answer to it. -/
def perform (c : Converter) : Call → Converter × Answer
  | .register => (c.register, .registered)
  | .models => (c, .models c.models)
  | .apis => (c, .apis c.apis)

/-- The converter behind a list of calls, and the answers to them in their order. -/
def run (c : Converter) : List Call → Converter × List Answer
  | [] => (c, [])
  | call :: calls =>
    let (next, answer) := c.perform call
    let (last, answers) := next.run calls
    (last, answer :: answers)

/-! ## What calls leave as it is -/

variable {language : Language} {declaration : Declaration} {c : Converter}

/-- A converter of a declaration into a language whose table, if it has one, is the one that is
made of these two. -/
structure Converts (language : Language) (declaration : Declaration) (c : Converter) : Prop where
  language_eq : c.language = language
  declaration_eq : c.declaration = declaration
  registered : ∀ names ∈ c.registered, names = NameTable.build language declaration

theorem converts_new (language : Language) (declaration : Declaration) :
    Converts language declaration ⟨language, declaration, none⟩ :=
  ⟨rfl, rfl, by simp⟩

/-- The two ways to the names meet. -/
theorem Converts.names_eq (h : Converts language declaration c) :
    c.names = NameTable.build language declaration := by
  unfold names
  cases hregistered : c.registered with
  | none => rw [h.language_eq, h.declaration_eq, Option.getD_none]
  | some names => exact h.registered names hregistered

theorem Converts.register (h : Converts language declaration c) :
    Converts language declaration c.register := by
  unfold Converter.register
  split
  · exact h
  · refine ⟨h.language_eq, h.declaration_eq, ?_⟩
    simp [h.language_eq, h.declaration_eq]

/-- The answer to a call, by the language and the declaration alone. -/
def answer (language : Language) (declaration : Declaration) : Call → Answer
  | .register => .registered
  | .models => .models
      (Client.models language (NameTable.build language declaration) declaration)
  | .apis => .apis (Client.apis language (NameTable.build language declaration) declaration)

/-- **One call**: reading leaves the converter alone, and registering stores the names that a
reading makes. -/
theorem Converts.perform (h : Converts language declaration c) (call : Call) :
    Converts language declaration (c.perform call).1 ∧
      (c.perform call).2 = answer language declaration call := by
  cases call with
  | register => exact ⟨h.register, rfl⟩
  | models =>
    refine ⟨h, ?_⟩
    simp only [Converter.perform, answer, Converter.models, h.names_eq, h.language_eq,
      h.declaration_eq]
  | apis =>
    refine ⟨h, ?_⟩
    simp only [Converter.perform, answer, Converter.apis, h.names_eq, h.language_eq,
      h.declaration_eq]

/-- **Any list of calls**, whatever was called before. -/
theorem Converts.run (h : Converts language declaration c) (calls : List Call) :
    Converts language declaration (c.run calls).1 ∧
      (c.run calls).2 = calls.map (answer language declaration) := by
  induction calls generalizing c with
  | nil => exact ⟨h, rfl⟩
  | cons call calls ih =>
    obtain ⟨hnext, hanswer⟩ := h.perform call
    obtain ⟨hlast, hanswers⟩ := ih hnext
    refine ⟨hlast, ?_⟩
    rw [List.map_cons, ← hanswer, ← hanswers]
    rfl

/-- **Calls on a new converter**, in any order and any number: all readings of the models give one
list of descriptors, and all readings of the groups of operations another, before the names are
registered for the first time as well as after it. -/
theorem answers_eq (language : Language) (declaration : Declaration) (calls : List Call) :
    ((⟨language, declaration, none⟩ : Converter).run calls).2 =
      calls.map (answer language declaration) :=
  ((converts_new language declaration).run calls).2

end Converter

end Stencil
