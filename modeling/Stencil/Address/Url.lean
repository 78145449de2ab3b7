import Stencil.Address.Host
import Stencil.Text.Lossy

/-!
# Addresses of documents

Addresses are cut apart generously: blanks around them do not count, backslashes are
slashes, any number of slashes may stand before the host, and dot segments of a path are
carried out.  What was cut apart is written in one way only.

## Main definitions

* `Url.readWeb?`: an address on the web.
* `Url.readFilePath?`: the path in an address of a file.
-/

namespace Stencil.Address

/-! ## Parts -/

/-- Characters that are encoded in a fragment. -/
def fragmentReserved : List Char := [' ', '"', '<', '>', '\x60']

/-- Characters that are encoded in a query. -/
def queryReserved : List Char := [' ', '"', '#', '<', '>', '\'']

/-- Characters that are encoded in a path. -/
def pathReserved : List Char := fragmentReserved ++ ['#', '?', '\x7b', '\x7d']

/-- Characters that are encoded in a user name or a password. -/
def userReserved : List Char :=
  pathReserved ++ ['/', ':', ';', '=', '@', '[', '\\', ']', '^', '|']

/-- A text without the controls and spaces around it. -/
def trimmed (cs : List Char) : List Char :=
  let isEdge (c : Char) : Bool := c.toNat ≤ 0x20
  ((cs.dropWhile isEdge).reverse.dropWhile isEdge).reverse

/-- Whether a character counts nowhere in an address. -/
def isIgnored (c : Char) : Bool := c == '\t' || c == '\n' || c == '\r'

/-- A text without the characters that count nowhere. -/
def cleaned (cs : List Char) : List Char := cs.filter fun c => !isIgnored c

/-- Whether a character separates the segments of a path. -/
def isSlash (c : Char) : Bool := c == '/' || c == '\\'

/-- Whether a character ends the part of an address before the path. -/
def endsAuthority (c : Char) : Bool := isSlash c || c == '?' || c == '#'

/-- Whether a character may stand in a scheme behind its first letter. -/
def isSchemeChar (c : Char) : Bool := c.isAlphanum || c == '+' || c == '-' || c == '.'

/-- The scheme in small letters and the text behind its colon; `read` is what was read of the
scheme, the last character first. -/
def schemeFrom? (read : List Char) : List Char → Option (List Char × List Char)
  | [] => none
  | c :: rest =>
    if isIgnored c then schemeFrom? read rest
    else if c = ':' then
      if read.getLast?.any Char.isAlpha then some (read.reverse.map Char.toLower, rest) else none
    else if isSchemeChar c then schemeFrom? (c :: read) rest
    else none

/-- The scheme in small letters and the text behind its colon. -/
def scheme? (cs : List Char) : Option (List Char × List Char) := schemeFrom? [] cs

/-! ## Paths -/

/-- Whether a segment stays where it is. -/
def isSingleDot (segment : List Char) : Bool :=
  [".", "%2e"].contains (String.ofList (segment.map Char.toLower))

/-- Whether a segment goes up. -/
def isDoubleDot (segment : List Char) : Bool :=
  ["..", ".%2e", "%2e.", "%2e%2e"].contains (String.ofList (segment.map Char.toLower))

/-- Whether a segment is a letter that names a drive. -/
def isDrive : List Char → Bool
  | [c, mark] => c.isAlpha && (mark == ':' || mark == '|')
  | _ => false

/-- Whether a segment is a letter that names a drive, with the usual mark. -/
def isPlainDrive (segment : List Char) : Bool := isDrive segment && segment.getLast? == some ':'

/-- A path without its last segment, whose slash stays. -/
def withoutSegment (path : List Char) : List Char := (path.reverse.dropWhile (· != '/')).reverse

/-- The last segment of a path. -/
def lastSegment (path : List Char) : List Char := (path.reverse.takeWhile (· != '/')).reverse

/-- A path without a slash at its end, unless it is the first one or there is a drive before
it. -/
def withoutSlash (path : List Char) : List Char :=
  let before := path.dropLast
  if path.getLast? == some '/' && before.contains '/' && !isDrive (lastSegment before) then before
  else path

/-- A path without its last segment.  In the path of a file a drive stays. -/
def shortened (isFile : Bool) (path : List Char) : List Char :=
  if isFile && isPlainDrive (lastSegment path) then path else withoutSegment path

/-- A path that ends in a slash. -/
def withSlash (path : List Char) : List Char :=
  if path.getLast? == some '/' then path else path ++ ['/']

/-- A path that is being read. -/
structure PartialPath where
  /-- The path as far as it is written. -/
  written : List Char
  /-- Where the segment starts that is being read. -/
  start : Nat
  /-- What was read and is not written yet, the last character first. -/
  unwritten : List Char
  /-- Whether a drive came first. -/
  hasDrive : Bool

namespace PartialPath

/-- The path with all that was read written. -/
def flush (p : PartialPath) : PartialPath :=
  { p with
    written := p.written ++ percentEncode pathReserved p.unwritten.reverse
    unwritten := [] }

/-- The path behind a segment, possibly with a slash behind it.  Dot segments are carried out,
and in the path of a file the mark of a drive in front is a colon. -/
def endSegment (isFile endsInSlash : Bool) (p : PartialPath) : PartialPath :=
  let flushed := p.flush.written
  let before := flushed.take p.start
  let segment := flushed.drop p.start
  let slash := if endsInSlash then ['/'] else []
  let isDriveInFront := isFile && p.start == 1 && isDrive segment
  let written :=
    if isDoubleDot segment then
      let path := shortened isFile (withoutSlash before)
      if endsInSlash then withSlash path else path
    else if isSingleDot segment then withSlash before
    else if isDriveInFront then before ++ segment.take 1 ++ [':'] ++ slash
    else flushed ++ slash
  ⟨written, written.length, [], p.hasDrive || isDriveInFront⟩

/-- The path with one more character of a segment.  In the path of a file a slash is put
behind a drive in front that is already written. -/
def grow (isFile : Bool) (p : PartialPath) (c : Char) : PartialPath :=
  if isFile && isPlainDrive (p.written.drop 1) then
    ⟨p.flush.written ++ ['/'], p.start + 1, [c], p.hasDrive⟩
  else { p with unwritten := c :: p.unwritten }

/-- The path with a text behind it, up to a query or a fragment, and the rest of the text. -/
def read (isFile : Bool) (p : PartialPath) : List Char → PartialPath × List Char
  | [] => (p.endSegment isFile false, [])
  | c :: rest =>
    if isIgnored c then p.flush.read isFile rest
    else if isSlash c then (p.endSegment isFile true).read isFile rest
    else if c = '?' || c = '#' then (p.endSegment isFile false, c :: rest)
    else (p.grow isFile c).read isFile rest

end PartialPath

/-- A text without a slash in front. -/
def withoutFirstSlash (cs : List Char) : List Char :=
  match cs with
  | c :: rest => if isSlash c then rest else c :: rest
  | [] => []

/-! ## Addresses on the web -/

/-- An address on the web. -/
structure Url where
  scheme : String
  /-- The user name and the password, as they are written. -/
  user : String
  host : Host
  /-- The number behind the host, unless it is the usual one of the scheme. -/
  service : Option Nat
  path : List String
  /-- The query and the fragment, as they are written. -/
  tail : String

namespace Url

/-- The schemes of the web and their service numbers, which need not be written. -/
def webSchemes : List (String × Nat) := [("http", 80), ("https", 443)]

/-- A user name and a password as they are written in front of a host. -/
def writeUser (user : List Char) : List Char :=
  let (name, password) := user.span (· != ':')
  let password := password.drop 1
  let encode := percentEncode userReserved
  if name.isEmpty && password.isEmpty then []
  else encode name ++ (if password.isEmpty then [] else ':' :: encode password) ++ ['@']

/-- The host and the service in a text, cut at the first colon outside brackets. -/
def splitService (inBrackets : Bool) : List Char → List Char × List Char
  | [] => ([], [])
  | c :: rest =>
    if c = ':' && !inBrackets then ([], c :: rest)
    else
      let inBrackets := if c = '[' then true else if c = ']' then false else inBrackets
      let (host, service) := splitService inBrackets rest
      (c :: host, service)

/-- The service number behind a colon, none inside if it is not written or the usual one,
none at all if it is no such number. -/
def service? (usual : Nat) : List Char → Option (Option Nat)
  | [] => some none
  | [_] => some none
  | _ :: digits => do
    if digits.any (!·.isDigit) then none
    let n ← Host.numberIn? 10 digits
    if n > 65535 then none
    return if n = usual then none else some n

/-- The query and the fragment, as they are written. -/
def writeTail : List Char → List Char
  | '?' :: rest =>
    let (query, fragment) := rest.span (· != '#')
    ['?'] ++ percentEncode queryReserved query ++
      match fragment with
      | '#' :: fragment => '#' :: percentEncode fragmentReserved fragment
      | _ => []
  | '#' :: fragment => '#' :: percentEncode fragmentReserved fragment
  | _ => []

/-- The address on the web that a text is. -/
def readWeb? (text : String) : Option Url := do
  let (scheme, rest) ← scheme? (trimmed text.toList)
  let scheme := String.ofList scheme
  let usual ← webSchemes.lookup scheme
  let (authority, rest) := ((cleaned rest).dropWhile isSlash).span (!endsAuthority ·)
  let (user, hostAndService) := match Text.cutLast? '@' authority with
    | some (user, hostAndService) => (writeUser user, hostAndService)
    | none => ([], authority)
  let (host, service) := splitService false hostAndService
  let host ← Host.read? host
  let service ← service? usual service
  let (path, rest) := PartialPath.read false ⟨['/'], 1, [], false⟩ (withoutFirstSlash rest)
  return {
    scheme, host, service
    user := String.ofList user
    path := (Text.splitWhere (· == '/') (path.written.drop 1)).map String.ofList
    tail := String.ofList (writeTail rest) }

/-- An address as it is written. -/
def write (url : Url) : String :=
  url.scheme ++ "://" ++ url.user ++ url.host.write ++
    (match url.service with
      | some number => ":" ++ toString number
      | none => "") ++
    "/" ++ "/".intercalate url.path ++ url.tail

/-! ## Addresses of files -/

/-- Two characters at the start of a text, those that count nowhere aside, and the texts
behind each of them. -/
def firstTwo (cs : List Char) : Option (Char × List Char) × Option (Char × List Char) :=
  let first (cs : List Char) : Option (Char × List Char) :=
    match cs.dropWhile isIgnored with
    | [] => none
    | c :: rest => some (c, rest)
  (first cs, (first cs).bind fun (_, rest) => first rest)

/-- The path in an address of a file behind two slashes, none if the file is on another host
or the address is no good.  A drive in front of the path makes its host count nothing. -/
def hostedPath? (cs : List Char) : Option (List Char) := do
  let (host, behind) := cs.span (!endsAuthority ·)
  let host := cleaned host
  let atRoot (cs : List Char) : PartialPath := (PartialPath.read true ⟨['/'], 1, [], false⟩ cs).1
  if isDrive host then return (atRoot cs).written
  if host.isEmpty then return (atRoot behind).written
  if (← Host.read? host) == .domain "localhost" then return (atRoot behind).written
  let path := atRoot (withoutFirstSlash (behind.dropWhile isIgnored))
  if path.hasDrive then return path.written else none

/-- The path in an address of a file, behind its scheme; none if the file is on another host or
the address is no good. -/
def filePath? (cs : List Char) : Option (List Char) :=
  match firstTwo cs with
  | (some (a, _), some (b, rest)) =>
    if isSlash a && isSlash b then hostedPath? rest else some (unhosted cs)
  | _ => some (unhosted cs)
where
  /-- The path behind the scheme if no host comes before it. -/
  unhosted (cs : List Char) : List Char :=
    let start := if (cs.dropWhile isIgnored).head?.any isSlash then [] else ['/']
    (PartialPath.read true ⟨start, start.length, [], false⟩ cs).1.written

/-- Bytes of a path with a slash behind a drive that stands at the end. -/
def endDrive (bytes : List UInt8) : List UInt8 :=
  match bytes.reverse with
  | mark :: letter :: _ :: _ =>
    if isDrive [Char.ofNat letter.toNat, Char.ofNat mark.toNat] then bytes ++ ['/'.toUInt8]
    else bytes
  | _ => bytes

/-- The path in an address of a file, with a single slash in front. -/
def readFilePath? (text : String) : Option String := do
  let (scheme, rest) ← scheme? (trimmed text.toList)
  if scheme ≠ "file".toList then none
  let path := '/' :: (← filePath? rest).dropWhile (· == '/')
  return Text.lossy (endDrive (percentDecode path))

end Url

end Stencil.Address
