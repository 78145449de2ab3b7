import Stencil.Address.Url
import Stencil.Storage.Path

/-!
# Locators

Where a declaration is to be found: at an address on the web or at a path.  An address
of a file is its path; everything else is a path as it stands.
-/

namespace Stencil

/-- Where a declaration is. -/
inductive Locator where
  | remote (url : Address.Url)
  | localFile (path : String)

namespace Locator

/-- The locator that a text is. -/
def parse (text : String) : Locator :=
  match Address.Url.readWeb? text with
  | some url => .remote url
  | none => .localFile ((Address.Url.readFilePath? text).getD text)

/-- The name that the operations of a declaration go by if its locator gives none. -/
def fallbackName : String := "OutputClass"

/-- The name that the operations of a declaration go by: that of the file, without
extension. -/
def baseName : Locator → String
  | remote url => ((url.path.getLast?).bind Path.fileStem?).getD fallbackName
  | localFile path => (Path.fileStem? path).getD fallbackName

end Locator

end Stencil
