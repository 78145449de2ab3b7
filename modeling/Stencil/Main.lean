import Stencil.CommandLine.Answer

/-!
# The program

The command line on real files.  Nothing is decided here: the arguments go to
`CommandLine.answer`, and what comes back is printed.
-/

namespace Stencil.Program

/-- The number of a fault, which may come negated. -/
def faultNumber (code : UInt32) : Nat :=
  if code.toNat < 0x80000000 then code.toNat else 0x100000000 - code.toNat

/-- The fault with a number and a wording. -/
def faultWith (code : UInt32) (wording : String) : FileFault :=
  match faultNumber code with
  | 2 => .noEntry
  | 17 => .exists
  | 20 => .notFolder
  | 21 => .isFolder
  | 36 => .nameTooLong
  | number => .other number wording

/-- The fault that the system reports. -/
def faultOf : IO.Error → FileFault
  | .noFileOrDirectory .. => .noEntry
  | .alreadyExists .. => .exists
  | .inappropriateType _ code wording => faultWith code wording
  | .invalidArgument _ code wording => faultWith code wording
  | .permissionDenied _ code wording => faultWith code wording
  | .resourceExhausted _ code wording => faultWith code wording
  | .hardwareFault code wording => faultWith code wording
  | .otherError code wording => faultWith code wording
  | error => .other 0 (toString error)

/-- A step on the real file or folder at a path. -/
def attempt {α : Type} (path : String) (step : IO α) : IO (Except FileFault α) := do
  match Storage.checkPath path with
  | .error fault => return .error fault
  | .ok () =>
    match ← step.toBaseIO with
    | .ok x => return .ok x
    | .error error => return .error (faultOf error)

/-- A text behind what a file holds. -/
def append (path text : String) : IO Unit := do
  let file ← IO.FS.Handle.mk path .append
  file.putStr text
  file.flush

/-- The folder at a path, made unless it is there; a folder cannot be read like a file. -/
def ensureFolder (path : String) : IO (Except FileFault Unit) := do
  match ← attempt path (IO.FS.createDir path) with
  | .ok () => return .ok ()
  | .error fault =>
    match ← attempt path (IO.FS.readBinFile path) with
    | .error .isFolder => return .ok ()
    | _ => return .error fault

/-- The folder at a path with all folders above it. -/
def makeFolders (path : String) : IO (Except FileFault Unit) := do
  if path.isEmpty then return .ok ()
  match ← ensureFolder path with
  | .error .noEntry =>
    for folder in Storage.above path do
      if let .error fault ← ensureFolder folder then return .error fault
    ensureFolder path
  | result => return result

/-- The variables of the process, none if the system does not list them. -/
def processVariables : IO (List (String × String)) := do
  match ← (IO.FS.readBinFile "/proc/self/environ").toBaseIO with
  | .error _ => return []
  | .ok content =>
    let entries := ((String.fromUTF8? content).getD "").splitOn "\x00"
    return entries.filterMap fun entry =>
      (Text.cut? ['='] entry.toList).map fun (name, value) =>
        (String.ofList name, String.ofList value)

/-- Real files, folders and variables, without a connection to the web. -/
def environment : Environment IO where
  readText path := do
    match ← attempt path (IO.FS.readBinFile path) with
    | .ok content => return (String.fromUTF8? content).elim (.error .notUtf8) .ok
    | .error fault => return .error fault
  writeFile path text := attempt path (IO.FS.writeFile path text)
  appendFile path text := attempt path (append path text)
  makeFolders := makeFolders
  fetch _ _ := return .error "Request failed: there is no connection to the web"
  render template view := do
    let known ← processVariables
    return Template.renderWith (.ofVariables (known.lookup ·)) template view

end Stencil.Program

/-- The program: the answer to the arguments, printed. -/
def main (arguments : List String) : IO UInt32 := do
  let answer ← Stencil.CommandLine.answer Stencil.Program.environment arguments
  IO.print answer.output
  IO.eprint answer.errors
  return answer.exitCode.toUInt32
