/-!
# Failures of a run

Everything that can end a run, with its wording.
-/

namespace Stencil

/-- Why a template could not be rendered. -/
inductive RenderFault where
  /-- The template is not well formed. -/
  | malformed
  /-- The template could not be evaluated. -/
  | evaluation (message : String)
deriving DecidableEq, Repr

namespace RenderFault

/-- The wording of a fault. -/
def message : RenderFault → String
  | malformed => "Failed to parse '__tera_one_off'"
  | evaluation message => message

end RenderFault

/-- What can end a run. -/
inductive Failure where
  /-- The declaration could not be fetched. -/
  | transport (locator message : String)
  /-- The declaration is not a JSON text of the right shape. -/
  | invalidJson (message : String)
  /-- The declaration has no groups of operations. -/
  | notSwagger
  /-- No converter has the requested key. -/
  | unknownConverter (key : String) (known : List String)
  /-- There is no template file. -/
  | templateMissing (path : String)
  /-- A template could not be rendered. -/
  | render (template : String) (fault : RenderFault)
  /-- A file or folder could not be read or written. -/
  | fileAccess (path message : String)
deriving DecidableEq, Repr

namespace Failure

/-- The wording of a failure. -/
def message : Failure → String
  | transport locator message => "Failed to load " ++ locator ++ ": " ++ message
  | invalidJson message => "Could not load JSON as Swagger document: " ++ message
  | notSwagger => "Could not load JSON as Swagger document"
  | unknownConverter key known =>
    "Unknown converter '" ++ key ++ "' (registered: " ++ ", ".intercalate known ++ ")"
  | templateMissing path => "Template not found at " ++ path
  | render template fault => "Failed to render " ++ template ++ " template: " ++ fault.message
  | fileAccess path message => "I/O error on " ++ path ++ ": " ++ message

end Failure

end Stencil
