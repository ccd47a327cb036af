import CollectionSql.FileSystem.Tree
import CollectionSql.Text.Pieces

/-!
# File systems

A file system is a tree of files with a working directory. A path is walked name by name: what it
goes through must be directories, and the first name that is not there ends the walk. Result:
`node?_put`, what storing a node does to a lookup.
-/

namespace CollectionSql

/-- The tree below the root, and the working directory. -/
structure FileSystem where
  root : FileTree
  workingDirectory : FileName

namespace FileSystem

/-! ## Nodes -/

/-- The node with a name. -/
def node? (fs : FileSystem) (name : FileName) : Option FileNode := fs.root.node? name

/-- Stores a node in a directory that exists. -/
def put (fs : FileSystem) (name : FileName) (node : FileNode) : FileSystem :=
  { fs with root := .put (.ofNode node) fs.root name }

theorem node?_put (fs : FileSystem) (name other : FileName) (node : FileNode) (hne : name ≠ [])
    (hdir : fs.node? name.dropLast = some .directory) (hnew : fs.node? name ≠ some .directory) :
    (fs.put name node).node? other = if other = name then some node else fs.node? other :=
  FileTree.node?_put node fs.root name other hne hdir hnew

/-! ## Walks -/

/-- The longest name of a node, in bytes. -/
def maxNameLength : Nat := 255

/-- The longest path, in bytes. -/
def maxPathLength : Nat := 4095

/-- The names in a path. -/
def namesOf (path : String) : List String := (Text.pieces '/' path.toList).map String.ofList

/-- Whether a name leads nowhere else. -/
def isHere (name : String) : Bool := name == "" || name == "."

/-- Where a path starts. -/
def startOf (fs : FileSystem) (path : String) : FileName :=
  if path.toList.head? = some '/' then [] else fs.workingDirectory

/-- Walks from a node. -/
def walk (fs : FileSystem) (here : FileName) : List String → Except FileFault FileName
  | [] => .ok here
  | name :: names =>
    match fs.node? here with
    | some .directory =>
      if isHere name then fs.walk here names
      else if name = ".." then fs.walk here.dropLast names
      else if maxNameLength < name.utf8ByteSize then .error .nameTooLong
      else if (fs.node? (here ++ [name])).isSome then fs.walk (here ++ [name]) names
      else .error .notFound
    | _ => .error .notDirectory

/-- A path must not be empty, too long, or have a NUL in it. -/
def checkPath (path : String) : Except FileFault Unit :=
  if path.toList.contains '\x00' then .error .containsNul
  else if path = "" then .error .notFound
  else if maxPathLength < path.utf8ByteSize then .error .nameTooLong
  else .ok ()

/-- The name that a path leads to. -/
def resolve (fs : FileSystem) (path : String) : Except FileFault FileName := do
  checkPath path
  fs.walk (fs.startOf path) (namesOf path)

/-! ## Reading and writing -/

/-- The text in a file. -/
def readText (fs : FileSystem) (path : String) : Except FileFault String := do
  let name ← fs.resolve path
  match fs.node? name with
  | none => throw .notFound
  | some .directory => throw .isDirectory
  | some (.file content) => content.text?

/-- The name of the file that a path leads to, which need not exist. Its directory must. -/
def resolveNew (fs : FileSystem) (path : String) : Except FileFault FileName := do
  checkPath path
  let names := namesOf path
  let directory ← fs.walk (fs.startOf path) names.dropLast
  if fs.node? directory ≠ some .directory then throw .notDirectory
  let name := names.getLastD ""
  if ["", ".", ".."].contains name then throw .isDirectory
  if maxNameLength < name.utf8ByteSize then throw .nameTooLong
  return directory ++ [name]

/-- Writes a file. -/
def writeFile (fs : FileSystem) (path : String) (content : FileContent) :
    Except FileFault FileSystem := do
  let name ← fs.resolveNew path
  if fs.node? name = some .directory then throw .isDirectory
  return fs.put name (.file content)

/-! ## Making directories -/

/-- Makes the directories that are missing on a walk. A file on the way is in the place of one. The
directories that were made before a fault stay. -/
def makeWalk (fs : FileSystem) (here : FileName) : List String → FileSystem × Except FileFault Unit
  | [] =>
    match fs.node? here with
    | some .directory => (fs, .ok ())
    | _ => (fs, .error .alreadyExists)
  | name :: names =>
    match fs.node? here with
    | some .directory =>
      if isHere name then fs.makeWalk here names
      else if name = ".." then fs.makeWalk here.dropLast names
      else if maxNameLength < name.utf8ByteSize then (fs, .error .nameTooLong)
      else if (fs.node? (here ++ [name])).isSome then fs.makeWalk (here ++ [name]) names
      else (fs.put (here ++ [name]) .directory).makeWalk (here ++ [name]) names
    | _ => (fs, .error .alreadyExists)

/-- The names in a path without the empty ones. -/
def writtenNames (path : String) : List String := (namesOf path).filter (· ≠ "")

/-- Makes a directory and those on the way to it. The empty path is one that exists. What a path
that ends in a point leads to is not made, only the directories on the way to it. -/
def createDirectories (fs : FileSystem) (path : String) : FileSystem × Except FileFault Unit :=
  if path = "" then (fs, .ok ())
  else
    match checkPath path with
    | .error fault => (fs, .error fault)
    | .ok () =>
      let start := fs.startOf path
      let names := writtenNames path
      if names.getLast? = some "." then
        match fs.makeWalk start (names.filter (· ≠ ".")).dropLast with
        | (fs, .ok ()) => (fs, (fs.walk start names).map fun _ => ())
        | faulty => faulty
      else fs.makeWalk start names

/-! ## Databases -/

/-- The longest name of a node on the way to a database, in bytes. -/
def maxStepLength : Nat := 511

/-- The longest name of a database file, in bytes. The files beside it have longer ones. -/
def maxDatabaseLength : Nat := 504

/-- The length of a name with a slash before each of its parts, in bytes. -/
def nameLength (name : FileName) : Nat :=
  name.foldl (fun length part => length + part.utf8ByteSize + 1) 0

/-- Whether a name could be looked up in a directory. In one that is missing, any can. -/
def couldHave (fs : FileSystem) (directory : FileName) (name : String) : Bool :=
  match fs.node? directory with
  | some .directory => name.utf8ByteSize ≤ maxNameLength
  | some (.file _) => false
  | none => true

/-- The name of a database file. Directories above are resolved as text. -/
def databaseName (fs : FileSystem) (path : String) : Option FileName :=
  (namesOf path).foldlM (fun here name =>
    if isHere name then some here
    else if name = ".." then some here.dropLast
    else if nameLength (here ++ [name]) ≤ maxStepLength ∧ fs.couldHave here name then
      some (here ++ [name])
    else none) (fs.startOf path)

/-- Opens the database in the file with a name, making an empty file if there is none and one may be
made. -/
def openAt (fs : FileSystem) (name : FileName) (access : Sqlite.Access) :
    Except Sqlite.OpenFault (Sqlite.Database × FileSystem) :=
  match fs.node? name with
  | some .directory =>
    .error (if access = .readOnly ∧ name ≠ [] then .unreadable else .cannotOpen)
  | some (.file content) => .ok (⟨content.catalogue⟩, fs)
  | none =>
    if access = .create ∧ fs.node? name.dropLast = some .directory then
      .ok (.empty, fs.put name (.file (.text "")))
    else .error .cannotOpen

/-- Opens the database in a file. -/
def openFile (fs : FileSystem) (path : String) (access : Sqlite.Access) :
    Except Sqlite.OpenFault (Sqlite.Database × FileSystem) :=
  match fs.databaseName path with
  | none => .error .cannotOpen
  | some name =>
    if maxDatabaseLength < nameLength name then .error .cannotOpen else fs.openAt name access

/-- Carries out declarations in the database in a file. Nothing is written if nothing changes. -/
def define (fs : FileSystem) (path : String) (d : Sqlite.Definition) : FileSystem :=
  match fs.databaseName path with
  | none => fs
  | some name =>
    match fs.openAt name .create with
    | .error _ => fs
    | .ok (database, fs) =>
      match database.catalogue with
      | .error _ => fs
      | .ok catalogue =>
        if catalogue.extend d = catalogue then fs
        else fs.put name (.file (.database (catalogue.extend d)))

end FileSystem

end CollectionSql
