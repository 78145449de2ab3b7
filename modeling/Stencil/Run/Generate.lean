import Stencil.Client.Conversion
import Stencil.Client.Registry
import Stencil.Declaration.Document
import Stencil.Run.Emitter
import Stencil.Run.Load
import Stencil.Run.Renderer

/-!
# Runs

A run loads a declaration, describes its classes and operations in the target language,
and writes a rendered unit for each class and one for all operations.  The first failure
ends the run; what was written before stays.

## Main definitions

* `generateFromText`: everything behind the loading.
* `generate`: a whole run.
-/

namespace Stencil

open Stencil.Client (ModelDescriptor ApiDescriptor)

/-- How far a run has come. -/
inductive Stage where
  | start
  | loaded
  | parsed
  | converted
  /-- The class at a place in the declaration is written. -/
  | modelEmitted (index : Nat)
  | operationsEmitted
  | done
deriving DecidableEq, Repr

/-- A stage in a log. -/
def Stage.name : Stage → String
  | start => "start"
  | loaded => "loaded"
  | parsed => "parsed"
  | converted => "converted"
  | modelEmitted index => "model-emitted[" ++ toString index ++ "]"
  | operationsEmitted => "operations-emitted"
  | done => "done"

/-- What a run has done. -/
structure Report where
  /-- The written files in their order, one for each unit. -/
  files : List String
  /-- The number of classes. -/
  models : Nat
  /-- The number of groups of operations. -/
  apis : Nat
  /-- The number of warnings about the declaration. -/
  warnings : Nat
deriving DecidableEq, Repr

/-- A text that is rendered into a file: what it is made from and the name of the file. -/
structure RenderUnit where
  role : TemplateRole
  view : Json.Value
  name : String

namespace RenderUnit

/-- The unit of a class. -/
def ofModel (o : Options) (d : ModelDescriptor) : RenderUnit where
  role := .model
  view := Client.record [
    ("Resourceurl", .text o.input),
    ("Namespace", .text o.nameSpace),
    ("DataType", d.view)]
  name := d.fileName

/-- The unit of all operations. -/
def ofApis (o : Options) (apis : List ApiDescriptor) : RenderUnit :=
  let name := (Locator.parse o.input).baseName
  { role := .operations
    view := Client.record [
      ("Resourceurl", .text o.input),
      ("Namespace", .text o.nameSpace),
      ("Name", .text name),
      ("Apis", .list (apis.map ApiDescriptor.view))]
    name }

end RenderUnit

variable {m : Type → Type} [Monad m]

/-- A unit rendered and written, with the path of its file. -/
def emitUnit (environment : Environment m) (o : Options) (extension : String) (u : RenderUnit) :
    ExceptT Failure m String := do
  let text ← (Renderer.ofOptions o).render environment u.role u.view
  (Emitter.ofOptions o).emit environment text u.name extension

/-- Units rendered and written one after the other, with the paths of their files. -/
def emitUnits (environment : Environment m) (o : Options) (extension : String) :
    List RenderUnit → ExceptT Failure m (List String)
  | [] => return []
  | u :: units => do
    let path ← emitUnit environment o extension u
    return path :: (← emitUnits environment o extension units)

/-- The run behind the loading: everything that follows from the text of a declaration. -/
def generateFromText (environment : Environment m) (o : Options) (language : Language)
    (text : String) : ExceptT Failure m Report := do
  let document ← ExceptT.mk (pure (Document.parse text))
  let converter : Converter := { language, declaration := document.declaration }
  let converter := converter.register
  let models := converter.models
  let apis := converter.apis
  let units := models.map (.ofModel o) ++ [.ofApis o apis]
  let files ← emitUnits environment o language.extension units
  return ⟨files, models.length, apis.length, document.warnings.length⟩

/-- A whole run.  The converter is looked up before anything is read. -/
def generate (environment : Environment m) (registry : Registry) (o : Options) :
    ExceptT Failure m Report := do
  let language ← ExceptT.mk (pure (registry.resolve o.converter))
  let text ← loadDocument environment o.input o.credentials
  generateFromText environment o language text

end Stencil
