import Stencil.Run.Environment
import Stencil.Storage.Path

/-!
# Rendering with template files

There are two template files, one for classes and one for the operations; they are read anew
for every rendering.
-/

namespace Stencil

variable {m : Type → Type} [Monad m]

/-- What a template is for. -/
inductive TemplateRole where
  /-- One class. -/
  | model
  /-- All operations. -/
  | operations
deriving DecidableEq, Repr

/-- How a role shows in the name of a template file. -/
def TemplateRole.name : TemplateRole → String
  | model => "Model"
  | operations => "Action"

/-- Where the template files are. -/
structure Renderer where
  folder : String
  /-- What the names of template files start with. -/
  namePrefix : String
deriving DecidableEq, Repr

namespace Renderer

/-- The renderer that options ask for. -/
def ofOptions (o : Options) : Renderer := ⟨o.templateFolder, o.templatePrefix⟩

/-- The path of a template file. -/
def path (r : Renderer) (role : TemplateRole) : String :=
  Path.join r.folder (r.namePrefix ++ role.name ++ "Template.txt")

/-- The failure of reading a template file. -/
def readFailure (path : String) : FileFault → Failure
  | .noEntry => .templateMissing path
  | fault => .fileAccess path fault.message

/-- A view rendered with the template file for a role. -/
def render (r : Renderer) (environment : Environment m) (role : TemplateRole)
    (view : Json.Value) : ExceptT Failure m String := do
  let path := r.path role
  let template ← attempt (readFailure path) (environment.readText path)
  attempt (.render path) (environment.render template view)

end Renderer

end Stencil
