import CollectionSql.FileSystem.Basic
import CollectionSql.Sqlite.Location

/-!
# Access to files

The operations on files that the program needs. They are a class, so that the program is one
definition for a file system that is a value and for that of the machine.
-/

namespace CollectionSql

/-- Operations on files. -/
class FileAccess (m : Type → Type) where
  /-- The text in a file. -/
  readText : String → m (Except FileFault String)
  /-- Makes a directory and those on the way to it. -/
  createDirectories : String → m (Except FileFault Unit)
  /-- Writes a text into a file whose directory exists. -/
  writeText : String → String → m (Except FileFault Unit)
  /-- Opens the database in a file. -/
  openFile : String → Sqlite.Access → m (Except Sqlite.OpenFault Sqlite.Database)

namespace FileSystem

instance : FileAccess (StateM FileSystem) where
  readText path := do return (← get).readText path
  createDirectories path := do
    let (fs, result) := (← get).createDirectories path
    set fs
    return result
  writeText path text := do
    match (← get).writeFile path (.text text) with
    | .ok fs => do set fs; return .ok ()
    | .error fault => return .error fault
  openFile path access := do
    match (← get).openFile path access with
    | .ok (database, fs) => do set fs; return .ok database
    | .error fault => return .error fault

end FileSystem

namespace Sqlite

variable {m : Type → Type} [Monad m] [FileAccess m]

/-- Opens the database with a name. -/
def openNamed (name : String) : m (Result Database) :=
  match Location.ofName name with
  | .error f => return .error (.of (.executionFailed f))
  | .ok .transient => return .ok .empty
  | .ok (.file path access) => do
    match ← FileAccess.openFile path access with
    | .ok database => return .ok database
    | .error fault => return .error (.of (.executionFailed (fault.failure name)))

end Sqlite

end CollectionSql
