import CollectionSql.FileSystem.Access
import CollectionSql.Schema.Validation

/-!
# Configuration files

A configuration directory holds its document in a file with a fixed name. The file is written only
when its text would change.
-/

namespace CollectionSql.ConfigFile

/-- The name of the file. -/
def name : String := "config.json"

/-- The path of the file in a directory. -/
def path (directory : String) : String :=
  if directory = "" then name
  else if directory.toList.getLast? = some '/' then directory ++ name
  else directory ++ "/" ++ name

/-- What writing a document did. -/
inductive Outcome where
  | created
  | updated
  | unchanged
deriving DecidableEq, Repr

/-- What could not be done with which path, and why. -/
inductive Fault where
  | read (path : String) (fault : FileFault)
  | create (path : String) (fault : FileFault)
  | write (path : String) (fault : FileFault)
deriving DecidableEq, Repr

/-- What could not be done. -/
def Fault.message : Fault → String
  | .read path _ => s!"failed to read `{path}`"
  | .create path _ => s!"failed to create `{path}`"
  | .write path _ => s!"failed to write `{path}`"

/-- Why it could not be done. -/
def Fault.reason : Fault → FileFault
  | .read _ fault | .create _ fault | .write _ fault => fault

variable {m : Type → Type} [Monad m] [FileAccess m]

/-- The schema that the file in a directory describes. -/
def load (directory : String) : m (Result Schema) := do
  match ← FileAccess.readText (path directory) with
  | .ok text => return Schema.parse text
  | .error fault => return .error (.configuration (.unreadable (path directory) fault))

/-- Writes a text into the file, making the directory first. -/
def store (directory text : String) (outcome : Outcome) : m (Except Fault Outcome) := do
  match ← FileAccess.createDirectories directory with
  | .error fault => return .error (.create directory fault)
  | .ok () =>
    match ← FileAccess.writeText (path directory) text with
    | .error fault => return .error (.write (path directory) fault)
    | .ok () => return .ok outcome

/-- Writes a document. A file that cannot be read stays as it is. -/
def write (directory : String) (d : Document) : m (Except Fault Outcome) := do
  match ← FileAccess.readText (path directory) with
  | .ok text => if text = d.text then return .ok .unchanged else store directory d.text .updated
  | .error .notFound => store directory d.text .created
  | .error fault => return .error (.read (path directory) fault)

end CollectionSql.ConfigFile
