import CollectionSql.Plan
import CollectionSql.Response
import CollectionSql.Sql.Tables
import CollectionSql.Sqlite.Introspection

/-!
# Databases

An open database as far as its catalogue goes: whether the tables of a plan exist. Stored rows are
not modelled, so a plan whose tables all exist finds them empty. SQLite looks at a file only when it
is used, which is why opening a file that is not a database succeeds and using it fails.
-/

namespace CollectionSql.Sqlite

/-- The texts of SQLite's error codes. -/
def errorCode : Nat → String
  | 1 => "Error code 1: SQL error or missing database"
  | 3 => "Error code 3: Access permission denied"
  | 14 => "Error code 14: Unable to open the database file"
  | 26 => "Error code 26: File opened that is not a database file"
  | code => s!"Error code {code}: Unknown error code"

/-- What may be done with the file of a database. -/
inductive Access where
  /-- It is read. -/
  | readOnly
  /-- It is read and written. -/
  | readWrite
  /-- It is read and written, and made if it is missing. -/
  | create
deriving DecidableEq, Repr

/-- Why the file of a database could not be opened. -/
inductive OpenFault where
  | cannotOpen
  /-- It was opened, and reading it failed. -/
  | unreadable
deriving DecidableEq, Repr

/-- The failure to open the database with a name. -/
def OpenFault.failure (name : String) : OpenFault → Failure
  | .cannotOpen => ⟨s!"unable to open database file: {name}", [errorCode 14]⟩
  | .unreadable => ⟨"disk I/O error", [errorCode 266]⟩

/-- A file that is not a database. -/
def notDatabase : Failure := ⟨"file is not a database", [errorCode 26]⟩

/-- A table that does not exist. -/
def noSuchTable (name : String) : Failure := ⟨s!"no such table: {name}", [errorCode 1]⟩

/-- An open database: its catalogue, or why it cannot be used. -/
structure Database where
  catalogue : Except Failure Catalogue

namespace Database

/-- A database without tables. -/
def empty : Database := ⟨.ok .empty⟩

/-- The catalogue, once the database is used. -/
def use (d : Database) : Result Catalogue := d.catalogue.mapError fun f => .of (.executionFailed f)

/-- The result of a plan over tables without rows. -/
def emptyResult : Json :=
  .string (RowSet.toJson { aggregates := none, rows := some [] }).compact

/-- Runs a plan. -/
def run (d : Database) (p : Plan) : Result Response := do
  let catalogue ← d.use
  match p.select.tables.find? fun t => !catalogue.contains t with
  | some t => throw (.of (.executionFailed (noSuchTable t)))
  | none => return .single Selection.dataColumn emptyResult

/-- The config document of the database. -/
def document (d : Database) : Result Document := do
  (← d.use).document

end Database

end CollectionSql.Sqlite
