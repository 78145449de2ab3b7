import Stencil.Address.Locator
import Stencil.Run.Environment

/-!
# Loading declarations

The text of a declaration is fetched from the web or read from a file.
-/

namespace Stencil

variable {m : Type → Type} [Monad m]

/-- The text of a declaration. -/
def loadDocument (environment : Environment m) (locator : String)
    (credentials : Option Credentials) : ExceptT Failure m String :=
  match Locator.parse locator with
  | .remote url => attempt (.transport locator) (environment.fetch url credentials)
  | .localFile path =>
    attempt (fun fault => .transport locator ("Failed to read " ++ path ++ ": " ++ fault.message))
      (environment.readText path)

end Stencil
