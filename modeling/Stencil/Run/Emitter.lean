import Stencil.Run.Environment
import Stencil.Storage.Path

/-!
# Writing rendered units

Every unit has a file of its own, which it replaces, or all units are put one behind the other
into one file.
-/

namespace Stencil

variable {m : Type → Type} [Monad m]

/-- Where rendered units are written. -/
structure Emitter where
  folder : String
  /-- What the names of files start with. -/
  namePrefix : String
  /-- The one file for all units. -/
  singleFile : Option String
deriving DecidableEq, Repr

namespace Emitter

/-- The emitter that options ask for. -/
def ofOptions (o : Options) : Emitter := ⟨o.outputFolder, o.outputPrefix, o.singleFile⟩

/-- The path of the file for a unit. -/
def target (e : Emitter) (name extension : String) : String :=
  match e.singleFile with
  | some single => Path.join e.folder single
  | none => Path.join e.folder (e.namePrefix ++ name ++ "." ++ extension)

/-- A rendered unit written to its file, of which the path is the result.  The folder is
made first; a file for all units keeps what it holds. -/
def emit (e : Emitter) (environment : Environment m) (text name extension : String) :
    ExceptT Failure m String := do
  let refused (path : String) (fault : FileFault) : Failure := .fileAccess path fault.message
  attempt (refused e.folder) (environment.makeFolders e.folder)
  let path := e.target name extension
  attempt (refused path) <|
    if e.singleFile.isSome then environment.appendFile path text
    else environment.writeFile path text
  return path

end Emitter

end Stencil
