import CollectionSql.Text.Space
import CollectionSql.Url.Host

/-!
# URLs

A URL as far as a connection needs it: its scheme and its path. After the scheme, two slashes open
an authority, one slash a path of segments, and anything else a path that is taken as it stands. A
query and a fragment are cut off. Blanks around the text and line ends inside it do not count.
-/

namespace CollectionSql

/-- A URL. -/
structure Url where
  scheme : String
  path : String
deriving DecidableEq, Repr

namespace Url

/-- A text without blanks and controls around it, and without tabs and line ends. -/
def cleaned (cs : List Char) : List Char :=
  let isOuter := fun (c : Char) => c.toNat ≤ 0x20
  let cs := ((cs.dropWhile isOuter).reverse.dropWhile isOuter).reverse
  cs.filter fun c => !(c == '\t' || c == '\n' || c == '\r')

/-- A character of a scheme after the first. -/
def isSchemeChar (c : Char) : Bool := c.isAlphanum || c == '+' || c == '-' || c == '.'

/-- The scheme in lower case, and what follows its colon. -/
def scanScheme (cs : List Char) : Option (List Char × List Char) :=
  match cs, cs.dropWhile isSchemeChar with
  | first :: _, ':' :: rest =>
    if first.isAlpha then some ((cs.takeWhile isSchemeChar).map Text.lowerAscii, rest) else none
  | _, _ => none

/-- The kinds of schemes, which differ in how the rest is read. -/
inductive SchemeKind where
  /-- A scheme of the web, which needs a host. -/
  | web
  /-- The scheme of files, in which a host is optional. -/
  | file
  /-- Any other. -/
  | other
deriving DecidableEq

/-- The kind of a scheme. -/
def SchemeKind.of (scheme : String) : SchemeKind :=
  if ["http", "https", "ws", "wss", "ftp"].contains scheme then .web
  else if scheme = "file" then .file
  else .other

/-- Whether a backslash is read as a slash. -/
def SchemeKind.isSpecial : SchemeKind → Bool
  | .other => false
  | _ => true

/-! ## Paths -/

/-- Whether a query or a fragment begins. -/
def opensQuery (c : Char) : Bool := c == '?' || c == '#'

/-- Whether a segment means the directory that it stands in. -/
def isSingleDot (segment : List Char) : Bool :=
  [".", "%2e"].contains (String.ofList (segment.map Text.lowerAscii))

/-- Whether a segment means the directory above. -/
def isDoubleDot (segment : List Char) : Bool :=
  ["..", ".%2e", "%2e.", "%2e%2e"].contains (String.ofList (segment.map Text.lowerAscii))

/-- Whether a segment is the letter of a drive with a colon or a bar. -/
def isDriveLetter : List Char → Bool
  | [letter, mark] => letter.isAlpha && (mark == ':' || mark == '|')
  | _ => false

/-- The segments of the directory above some segments, the nearest first. A drive has none. -/
def parentSegments : List (List Char) → List (List Char)
  | [] => []
  | segment :: before => if isDriveLetter segment then segment :: before else before

/-- Resolves the segments that mean directories, given those before them, the nearest first. -/
def resolveDots (before : List (List Char)) : List (List Char) → List (List Char)
  | [] => before.reverse
  | [segment] =>
    if isDoubleDot segment then ([] :: parentSegments before).reverse
    else if isSingleDot segment then ([] :: before).reverse
    else (segment :: before).reverse
  | segment :: rest =>
    if isDoubleDot segment then resolveDots (parentSegments before) rest
    else if isSingleDot segment then resolveDots before rest
    else resolveDots (segment :: before) rest

/-- The path that segments make, each after a slash. -/
def joinSegments (segments : List (List Char)) : List Char := segments.flatMap ('/' :: ·)

/-- The path after its first slash. -/
def segmentPath (kind : SchemeKind) (cs : List Char) : List Char :=
  let cs := cs.takeWhile fun c => !opensQuery c
  let cs := if kind.isSpecial then cs.map fun c => if c = '\\' then '/' else c else cs
  joinSegments (resolveDots [] ((Text.pieces '/' cs).map (encode isPathEncoded)))

/-- The path that is taken as it stands. -/
def plainPath (cs : List Char) : List Char :=
  encode isControl (cs.takeWhile fun c => !opensQuery c)

/-- The path after an authority. Only a scheme of the web has one when nothing is there. -/
def pathAfterAuthority (kind : SchemeKind) (cs : List Char) : List Char :=
  match cs with
  | '/' :: rest => segmentPath kind rest
  | [] => if kind.isSpecial then ['/'] else []
  | c :: rest =>
    if opensQuery c then if kind.isSpecial then ['/'] else []
    else if kind.isSpecial then segmentPath kind rest
    else segmentPath kind (c :: rest)

/-! ## Authorities -/

/-- Whether an authority ends. -/
def endsAuthority (kind : SchemeKind) (c : Char) : Bool :=
  c == '/' || opensQuery c || (kind.isSpecial && c == '\\')

/-- What stands before the last `@`, if there is one, and what stands after it. -/
def splitUserinfo (cs : List Char) : Option (List Char) × List Char :=
  let host := (cs.reverse.takeWhile (· ≠ '@')).reverse
  match cs.reverse.dropWhile (· ≠ '@') with
  | [] => (none, host)
  | _ :: before => (some before.reverse, host)

/-- What stands before the first colon outside brackets, and the rest from that colon on. -/
def splitPort (bracketed : Bool) : List Char → List Char × List Char
  | [] => ([], [])
  | c :: cs =>
    if c = ':' ∧ !bracketed then ([], c :: cs)
    else
      let bracketed := if c = '[' then true else if c = ']' then false else bracketed
      let (host, rest) := splitPort bracketed cs
      (c :: host, rest)

/-- The largest number that may follow the colon after a host. -/
def maxPort : Nat := 65535

/-- What follows the number after the colon of a host; a backslash may. -/
def scanPort (cs : List Char) : Except UrlFault (List Char) :=
  let (digits, rest) := Json.scanDigits cs
  if maxPort < Json.natOfDigits digits then .error .invalidPort
  else
    match rest with
    | [] => .ok []
    | c :: rest => if c = '\\' then .ok (c :: rest) else .error .invalidPort

/-- Checks the host of a URL. -/
def checkHostOf (kind : SchemeKind) (host : List Char) : Except UrlFault Unit :=
  match kind with
  | .other => checkHost host
  | _ => if host = [] then .error .emptyHost else checkDomain host

/-- Checks the authority at the start of a text. The result is what follows it. -/
def scanAuthority (kind : SchemeKind) (cs : List Char) : Except UrlFault (List Char) := do
  let authority := cs.takeWhile fun c => !endsAuthority kind c
  let rest := cs.dropWhile fun c => !endsAuthority kind c
  let (userinfo, address) := splitUserinfo authority
  if userinfo = some [] ∧ address = [] ∧ rest ≠ [] then throw .emptyHost
  let (host, number) := splitPort false address
  checkHostOf kind host
  if host = [] ∧ number ≠ [] then throw .emptyHost
  let left ← match number with
    | [] => pure []
    | _ :: digits => scanPort digits
  if host = [] ∧ userinfo.any (fun u => u ≠ [] ∧ u ≠ [':']) then throw .emptyHost
  return left ++ rest

/-- Whether a slash of either kind. -/
def isSlash (c : Char) : Bool := c == '/' || c == '\\'

/-- The path of a file URL. A host is checked and dropped. -/
def filePath : List Char → Except UrlFault (List Char)
  | a :: b :: rest => do
    if isSlash a && isSlash b then
      let host := rest.takeWhile fun c => !endsAuthority .file c
      if isDriveLetter host || host = [] then return pathAfterAuthority .file rest
      checkDomain host
      return pathAfterAuthority .file (rest.dropWhile fun c => !endsAuthority .file c)
    else if isSlash a then return segmentPath .file (b :: rest)
    else return segmentPath .file (a :: b :: rest)
  | cs => return segmentPath .file (cs.dropWhile isSlash)

/-- The path of a URL of a kind, from what follows the colon of its scheme. -/
def scanPath (kind : SchemeKind) (cs : List Char) : Except UrlFault (List Char) :=
  match kind, cs with
  | .web, cs => (scanAuthority .web (cs.dropWhile isSlash)).map (pathAfterAuthority .web)
  | .file, cs => filePath cs
  | .other, '/' :: '/' :: rest => (scanAuthority .other rest).map (pathAfterAuthority .other)
  | .other, '/' :: rest => .ok (segmentPath .other rest)
  | .other, cs => .ok (plainPath cs)

/-- The URL that a text spells. -/
def parse (text : String) : Except UrlFault Url := do
  let some (scheme, rest) := scanScheme (cleaned text.toList) | throw .noScheme
  let scheme := String.ofList scheme
  let path ← scanPath (.of scheme) rest
  return ⟨scheme, String.ofList path⟩

end Url

end CollectionSql
