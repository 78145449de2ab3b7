import Stencil.Address.Url
import Stencil.Failure
import Stencil.Run.Options
import Stencil.Storage.Folder
import Stencil.Template.Render

/-!
# Environments

What a run can do outside of itself, in any monad: files and folders, the web, and the rendering
of templates.  With a `Storage` as the state, a run is a function on storages.

## Implementation notes

Templates are rendered outside because their library can look at the variables of the environment,
the clock or chance.  So what a template is rendered as is not settled by its text and
its view, unless the environment says so; that of a storage takes an `Engine`, which does.
-/

namespace Stencil

/-- Files, folders, the web and the rendering of templates. -/
structure Environment (m : Type → Type) where
  readText (path : String) : m (Except FileFault String)
  writeFile (path text : String) : m (Except FileFault Unit)
  appendFile (path text : String) : m (Except FileFault Unit)
  makeFolders (path : String) : m (Except FileFault Unit)
  /-- The text at an address, or the wording of what went wrong. -/
  fetch (url : Address.Url) (credentials : Option Credentials) : m (Except String String)
  /-- The text of a template for a view. -/
  render (template : String) (view : Json.Value) : m (Except RenderFault String)

namespace Storage

/-- A storage and a result from an update that may fail and then changes nothing. -/
def update (change : Storage → Except FileFault Storage) : StateM Storage (Except FileFault Unit) :=
  fun storage =>
    match change storage with
    | .ok changed => (.ok (), changed)
    | .error fault => (.error fault, storage)

/-- The environment of a storage, a web and an engine for templates. -/
def environment (web : Address.Url → Option Credentials → Except String String)
    (engine : Template.Engine := Template.render) : Environment (StateM Storage) where
  readText path := fun storage => (storage.readText path, storage)
  writeFile path text := update (·.writeFile path text)
  appendFile path text := update (·.appendFile path text)
  makeFolders path := fun storage =>
    let (changed, result) := storage.makeFolders path
    (result, changed)
  fetch url credentials := fun storage => (web url credentials, storage)
  render template view := fun storage => (engine template view, storage)

end Storage

/-! ## Steps -/

/-- A step outside, whose fault is a failure of the run. -/
def attempt {m : Type → Type} [Monad m] {α ε : Type} (failure : ε → Failure)
    (step : m (Except ε α)) : ExceptT Failure m α :=
  ExceptT.mk do
    match ← step with
    | .ok x => return .ok x
    | .error fault => return .error (failure fault)

end Stencil
