import CollectionSql.CommandLine.Run

/-!
# The program

The command line over the file system of the machine. Of a database only an empty file can be opened
here: stored tables are not read.
-/

namespace CollectionSql

/-- The fault that an error of the operating system is. Its number may come with either sign. -/
def FileFault.ofError (e : IO.Error) : FileFault :=
  match e with
  | .noFileOrDirectory .. => .notFound
  | .alreadyExists .. => .alreadyExists
  | .inappropriateType _ code _ =>
    if code = 20 ∨ code = -20 then .notDirectory else .isDirectory
  | .invalidArgument _ code _ =>
    if code = 36 ∨ code = -36 then .nameTooLong else .containsNul
  | _ => .notFound

/-- The result of an operation on files, with its fault if it fails. -/
def attemptFile {α : Type} (operation : IO α) : IO (Except FileFault α) := do
  match ← operation.toBaseIO with
  | .ok a => return .ok a
  | .error e => return .error (.ofError e)

/-- How the operating system is asked to open a file. -/
def Sqlite.Access.mode : Sqlite.Access → IO.FS.Mode
  | .readOnly => .read
  | .readWrite => .readWrite
  | .create => .append

instance : FileAccess IO where
  readText path := do
    match ← attemptFile (IO.FS.readBinFile path) with
    | .error fault => return .error fault
    | .ok bytes =>
      match Text.ofUtf8? bytes.data.toList with
      | some text => return .ok text
      | none => return .error .notUtf8
  createDirectories path :=
    if path = "" then return .ok () else attemptFile (IO.FS.createDirAll path)
  writeText path text := attemptFile (IO.FS.writeFile path text)
  openFile path access := do
    match ← attemptFile (IO.FS.Handle.mk path access.mode) with
    | .error _ => return .error .cannotOpen
    | .ok _ =>
      match ← attemptFile (IO.FS.readBinFile path) with
      | .error _ => return .error .unreadable
      | .ok bytes => return .ok ⟨FileContent.catalogueOfSize bytes.size⟩

end CollectionSql

/-- Runs the program with the arguments of the command line. -/
def main (args : List String) : IO UInt32 := do
  let outcome ← CollectionSql.CommandLine.run args
  IO.print outcome.stdout
  IO.eprint outcome.stderr
  return UInt32.ofNat outcome.code
