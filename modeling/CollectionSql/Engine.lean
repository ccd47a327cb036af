import CollectionSql.ConfigFile
import CollectionSql.Url.Basic

/-!
# Engines

An engine compiles requests for one schema and runs the plans on one executor. Plans do not depend
on each other, and of several that fail the first one in order is reported.
-/

namespace CollectionSql

/-- Answers the plan at a position. -/
abbrev Executor := Nat → Plan → Result Response

/-- A schema with an executor. -/
structure Engine where
  schema : Schema
  executor : Executor

namespace Engine

/-- The plans for a request. -/
def compile (e : Engine) (r : Request) : Result (List Plan) := r.compile e.schema

/-- The row set of the plan at a position. -/
def runPlan (e : Engine) (index : Nat) (p : Plan) : Result RowSet := do
  (← e.executor index p).toRowSet

/-- The row sets of the plans for a request, in their order. -/
def execute (e : Engine) (r : Request) : Result (List RowSet) := do
  let plans ← e.compile r
  plans.zipIdx.mapM fun (p, index) => e.runPlan index p

end Engine

/-- What is known of an engine that is being put together. -/
structure Builder where
  schema : Option Schema

namespace Builder

/-- Nothing is known. -/
def empty : Builder := ⟨none⟩

/-- With a schema. -/
def withSchema (_ : Builder) (s : Schema) : Builder := ⟨some s⟩

/-- With the schema that a document describes. -/
def withDocument (b : Builder) (d : Document) : Result Builder := do
  return b.withSchema (← Schema.ofDocument d)

/-- The engine with an executor. -/
def build (b : Builder) (executor : Executor) : Result Engine :=
  match b.schema with
  | some schema => .ok ⟨schema, executor⟩
  | none => .error (.configuration .noSchema)

variable {m : Type → Type} [Monad m] [FileAccess m]

/-- With the schema in a configuration directory. -/
def withConfigDirectory (b : Builder) (directory : String) : m (Result Builder) := do
  return (← ConfigFile.load directory).map b.withSchema

end Builder

/-! ## Connections -/

/-- The scheme of connections to SQLite. -/
def Sqlite.scheme : String := "sqlite"

/-- The URL of a connection. -/
def connectionUrl (url : String) : Result Url :=
  (Url.parse url).mapError fun fault => .configuration (.invalidUrl url fault)

section

variable {m : Type → Type} [Monad m] [FileAccess m]

/-- Opens the database that a URL names. Its path is used as it stands in the URL. -/
def Sqlite.connect (url : String) : m (Result Sqlite.Database) :=
  match connectionUrl url with
  | .error e => return .error e
  | .ok parsed =>
    if parsed.scheme = Sqlite.scheme then Sqlite.openNamed parsed.path
    else return .error (.configuration (.notSqlite url))

/-- The executor that runs plans on a database. -/
def Sqlite.Database.executor (d : Sqlite.Database) : Executor := fun _ p => d.run p

/-- The engine for the database that a URL names. The database is opened before the schema is asked
for. -/
def Builder.connect (b : Builder) (url : String) : m (Result Engine) :=
  match connectionUrl url with
  | .error e => return .error e
  | .ok parsed =>
    if parsed.scheme = Sqlite.scheme then do
      return (← Sqlite.connect url).bind fun database => b.build database.executor
    else return .error (.configuration (.unsupportedDatabase parsed.scheme url))

end

end CollectionSql
