import CollectionSql.Sqlite.Database
import CollectionSql.Text.Pieces
import CollectionSql.Url.Percent

/-!
# Locations

Where the database with a name is: in a file, or nowhere but in memory for as long as it is open. A
name that starts with `file:` is a URI of its own, with an optional authority, percent encoding and
parameters. Some of them say how the file is opened, and through which system of files.
-/

namespace CollectionSql.Sqlite

/-- Where a database is. -/
inductive Location where
  /-- In memory, or in a file without a name. -/
  | transient
  | file (path : String) (access : Access)
deriving DecidableEq, Repr

namespace Location

/-- The name of a database in memory. -/
def memoryName : String := ":memory:"

/-- The location with a path. -/
def ofPath (path : String) (access : Access) : Location :=
  if path = "" ∨ path = memoryName then .transient else .file path access

/-! ## Parameters -/

/-- A part of a URI with its encoded bytes decoded. An encoded NUL ends it. -/
def decodePart (cs : List Char) : String :=
  Text.ofUtf8Lossy ((Url.decode cs).takeWhile (· ≠ 0))

/-- The parameter that a part of a URI sets, with its value. -/
def parameterOf (cs : List Char) : String × String :=
  (decodePart (cs.takeWhile (· ≠ '=')), decodePart ((cs.dropWhile (· ≠ '=')).drop 1))

/-- The parameters of a URI, which have `&` between them. One without a name does not count. -/
def parametersOf (cs : List Char) : List (String × String) :=
  ((Text.pieces '&' cs).map parameterOf).filter fun p => p.1 ≠ ""

/-- How a URI says that its database is opened. -/
inductive OpenMode where
  | file (access : Access)
  | memory
deriving DecidableEq, Repr

/-- The mode with a name. -/
def OpenMode.ofName? : String → Option OpenMode
  | "ro" => some (.file .readOnly)
  | "rw" => some (.file .readWrite)
  | "rwc" => some (.file .create)
  | "memory" => some .memory
  | _ => none

/-- How much an access allows. -/
def rank : Access → Nat
  | .readOnly => 0
  | .readWrite => 1
  | .create => 2

/-- Whether a mode may follow another: an access may only be narrowed. -/
def OpenMode.permits : OpenMode → OpenMode → Bool
  | .file old, .file new => rank new ≤ rank old
  | _, _ => true

/-- What the parameters of a URI ask for. -/
structure Settings where
  mode : OpenMode
  /-- The system of files, if one is named. -/
  system : Option String
deriving DecidableEq, Repr

/-- The failure of a URI. -/
def uriFailure (message : String) : Failure := ⟨message, [errorCode 1]⟩

/-- The settings with one more parameter. -/
def Settings.set (s : Settings) (parameter : String × String) : Except Failure Settings :=
  match parameter with
  | ("vfs", value) => .ok { s with system := some value }
  | ("cache", value) =>
    if ["shared", "private"].contains value then .ok s
    else .error (uriFailure s!"no such cache mode: {value}")
  | ("mode", value) =>
    match OpenMode.ofName? value with
    | none => .error (uriFailure s!"no such access mode: {value}")
    | some mode =>
      if s.mode.permits mode then .ok { s with mode := mode }
      else .error ⟨s!"access mode not allowed: {value}", [errorCode 3]⟩
  | _ => .ok s

/-- The systems that keep databases in files. -/
def fileSystems : List String := ["unix", "unix-none", "unix-dotfile", "unix-excl"]

/-- The system that keeps databases in memory. -/
def memorySystem : String := "memdb"

/-- The location of a path under settings. -/
def Settings.locate (s : Settings) (path : String) : Except Failure Location :=
  let location := match s.mode with
    | .file access => .ofPath path access
    | .memory => .transient
  match s.system with
  | none => .ok location
  | some system =>
    if fileSystems.contains system then .ok location
    else if system = memorySystem then .ok .transient
    else .error (uriFailure s!"no such vfs: {system}")

/-! ## Names -/

/-- The text that starts a URI. -/
def uriStart : List Char := ['f', 'i', 'l', 'e', ':']

/-- The part of a URI after its authority, which may be empty or this machine. -/
def afterAuthority : List Char → Except Failure (List Char)
  | '/' :: '/' :: rest =>
    let authority := rest.takeWhile (· ≠ '/')
    if authority = [] ∨ authority = "localhost".toList then .ok (rest.dropWhile (· ≠ '/'))
    else .error (uriFailure ("invalid uri authority: " ++ String.ofList authority))
  | cs => .ok cs

/-- The location that a URI names, given what follows its start. -/
def ofUri (cs : List Char) : Except Failure Location := do
  let cs ← afterAuthority cs
  let cs := cs.takeWhile (· ≠ '#')
  let parameters := parametersOf ((cs.dropWhile (· ≠ '?')).drop 1)
  let settings ← parameters.foldlM Settings.set ⟨.file .create, none⟩
  settings.locate (decodePart (cs.takeWhile (· ≠ '?')))

/-- The location of the database with a name. -/
def ofName (name : String) : Except Failure Location :=
  if uriStart.isPrefixOf name.toList then ofUri (name.toList.drop uriStart.length)
  else .ok (.ofPath name .create)

end Location

end CollectionSql.Sqlite
