import Stencil.Storage.Path

/-!
# Files and folders

The files and folders that a run reads and writes, as one value.  Each stands at a
location, the names from the root down to it.  There are no links, so every path leads
to one location.

## Main definitions

* `Storage.readFile`, `Storage.writeFile`, `Storage.appendFile`: files.
* `Storage.makeFolders`: a folder with all folders above it.

## Implementation notes

A path is followed one piece at a time.  Each piece but the last has to be a folder,
and a piece is looked up only in a folder, so of several things that are wrong with a
path the leftmost one is reported.
-/

namespace Stencil

/-- Why a file or folder could not be read or written. -/
inductive FileFault where
  | noEntry
  | exists
  | notFolder
  | isFolder
  | nameTooLong
  | zeroInPath
  | notUtf8
  /-- Anything else, with the number and the wording that the system has for it. -/
  | other (number : Nat) (wording : String)
deriving DecidableEq, Repr

namespace FileFault

/-- The wording of a fault. -/
def message : FileFault → String
  | noEntry => "No such file or directory (os error 2)"
  | «exists» => "File exists (os error 17)"
  | notFolder => "Not a directory (os error 20)"
  | isFolder => "Is a directory (os error 21)"
  | nameTooLong => "File name too long (os error 36)"
  | zeroInPath => "file name contained an unexpected NUL byte"
  | notUtf8 => "stream did not contain valid UTF-8"
  | other number wording => wording ++ " (os error " ++ toString number ++ ")"

end FileFault

/-- The names from the root down to a file or folder. -/
abbrev Location := List String

/-- What stands at a location. -/
inductive Entry where
  | folder
  | file (content : ByteArray)

/-- Files and folders, and the folder that relative paths start from.  The root is
always a folder. -/
structure Storage where
  entries : List (Location × Entry) := []
  workingFolder : Location := []

namespace Storage

/-- What stands at a location. -/
def get? (storage : Storage) (location : Location) : Option Entry :=
  if location.isEmpty then some .folder else storage.entries.lookup location

/-- Pairs with the entry at a location replaced, or put behind the others. -/
def setEntry (location : Location) (entry : Entry) :
    List (Location × Entry) → List (Location × Entry)
  | [] => [(location, entry)]
  | other :: others =>
    if other.1 = location then (location, entry) :: others
    else other :: setEntry location entry others

/-- The storage with an entry at a location. -/
def set (storage : Storage) (location : Location) (entry : Entry) : Storage :=
  { storage with entries := setEntry location entry storage.entries }

/-- The number of bytes that a name may have. -/
def greatestNameSize : Nat := 255

/-- The number of bytes that a path may have. -/
def greatestPathSize : Nat := 4095

/-- The location of a piece of a path, seen from a location. -/
def enter (storage : Storage) (location : Location) (piece : List Char) :
    Except FileFault Location :=
  match storage.get? location with
  | none => .error .noEntry
  | some (.file _) => .error .notFolder
  | some .folder =>
    if piece = ['.'] then .ok location
    else if piece = ['.', '.'] then .ok location.dropLast
    else if (String.ofList piece).utf8ByteSize > greatestNameSize then .error .nameTooLong
    else .ok (location ++ [String.ofList piece])

/-- The location that pieces of a path lead to, each of them entered.  Nothing need
stand at the last one. -/
def follow (storage : Storage) (location : Location) : List (List Char) →
    Except FileFault Location
  | [] => .ok location
  | piece :: pieces => do storage.follow (← storage.enter location piece) pieces

/-- Where a path starts. -/
def origin (storage : Storage) (path : List Char) : Location :=
  if Path.isAbsolute path then [] else storage.workingFolder

/-- What is wrong with the mere text of a path. -/
def checkPath (path : String) : Except FileFault Unit :=
  if path.toList.contains '\x00' then .error .zeroInPath
  else if path.isEmpty then .error .noEntry
  else if path.utf8ByteSize > greatestPathSize then .error .nameTooLong
  else .ok ()

/-- The location that a path leads to. -/
def locate (storage : Storage) (path : String) : Except FileFault Location := do
  checkPath path
  storage.follow (storage.origin path.toList) (Path.pieces path.toList)

/-- Whether a path says that it leads to a folder. -/
def endsInSlash (path : String) : Bool := path.toList.getLast? == some '/'

/-- Whether a path leads to a folder. -/
def isFolder (storage : Storage) (path : String) : Bool :=
  match storage.locate path with
  | .error _ => false
  | .ok location =>
    match storage.get? location with
    | some .folder => true
    | _ => false

/-! ## Files -/

/-- The content of a file. -/
def readFile (storage : Storage) (path : String) : Except FileFault ByteArray := do
  let location ← storage.locate path
  match storage.get? location with
  | none => .error .noEntry
  | some .folder => .error .isFolder
  | some (.file content) => if endsInSlash path then .error .notFolder else .ok content

/-- The text in a file. -/
def readText (storage : Storage) (path : String) : Except FileFault String := do
  match String.fromUTF8? (← storage.readFile path) with
  | some text => .ok text
  | none => .error .notUtf8

/-- The location at which a file can be written, and what the file holds.  The last name of
a path that ends in a slash is not looked up. -/
def target (storage : Storage) (path : String) :
    Except FileFault (Location × Option ByteArray) := do
  checkPath path
  let pieces := Path.pieces path.toList
  let origin := storage.origin path.toList
  if endsInSlash path then
    -- What is above the last name has to be there, and the last one cannot be a file.
    let parent ← storage.follow origin pieces.dropLast
    let _ ← storage.enter parent ['.']
    throw .isFolder
  let location ← storage.follow origin pieces
  match storage.get? location with
  | some .folder => throw .isFolder
  | some (.file content) => return (location, some content)
  | none => return (location, none)

/-- The storage with a text as the whole content of a file. -/
def writeFile (storage : Storage) (path text : String) : Except FileFault Storage := do
  let (location, _) ← storage.target path
  return storage.set location (.file text.toUTF8)

/-- The storage with a text behind what a file holds. -/
def appendFile (storage : Storage) (path text : String) : Except FileFault Storage := do
  let (location, content) ← storage.target path
  return storage.set location (.file (content.getD .empty ++ text.toUTF8))

/-! ## Folders -/

/-- The storage with a new folder in a folder that there is. -/
def makeFolder (storage : Storage) (path : String) : Except FileFault Storage := do
  let location ← storage.locate path
  match storage.get? location with
  | some _ => .error .exists
  | none => return storage.set location .folder

/-- The folder at a path, made unless it is there. -/
def ensureFolder (storage : Storage) (path : String) : Except FileFault Storage :=
  match storage.makeFolder path with
  | .ok storage => .ok storage
  | .error fault => if storage.isFolder path then .ok storage else .error fault

/-- The paths of the folders above a path, the outermost first. -/
def above (path : String) : List String :=
  let components := Path.components path.toList
  let start := if Path.isAbsolute path.toList then "/" else ""
  (List.range components.length).tail.map fun count =>
    start ++ "/".intercalate ((components.take count).map String.ofList)

/-- The folders at several paths, each made unless it is there. -/
def ensureAll (storage : Storage) : List String → Storage × Except FileFault Unit
  | [] => (storage, .ok ())
  | path :: paths =>
    match storage.ensureFolder path with
    | .ok storage => storage.ensureAll paths
    | .error fault => (storage, .error fault)

/-- The folder at a path with all folders above it.  Folders made on the way stay also
when a later one cannot be made. -/
def makeFolders (storage : Storage) (path : String) : Storage × Except FileFault Unit :=
  if path.isEmpty then (storage, .ok ())
  else
    match storage.ensureFolder path with
    | .ok storage => (storage, .ok ())
    | .error .noEntry => storage.ensureAll (above path ++ [path])
    | .error fault => (storage, .error fault)

end Storage

end Stencil
