import CollectionSql.CommandLine.Arguments
import CollectionSql.Engine
import CollectionSql.Request.Reader
import CollectionSql.Text.Pieces

/-!
# Running commands

What each command prints, and how a failure is reported: its message, then the chain of its causes,
numbered if there is more than one.
-/

namespace CollectionSql.CommandLine

/-! ## Failures -/

/-- Why a command failed. -/
inductive Trouble where
  | failed (error : Error)
  | unreadableRequest (path : String) (fault : FileFault)
  | configFile (fault : ConfigFile.Fault)
deriving DecidableEq, Repr

/-- What failed. -/
def Trouble.message : Trouble → String
  | .failed error => error.message
  | .unreadableRequest path _ => s!"failed to read request `{path}`"
  | .configFile fault => fault.message

/-- Why it failed, outermost cause first. -/
def Trouble.causes : Trouble → List String
  | .failed error => error.sources
  | .unreadableRequest _ fault => [fault.message]
  | .configFile fault => [fault.reason.message]

/-- A text whose lines after the first are indented. -/
def indented (first rest : String) (text : String) : String :=
  let lines := (Text.pieces '\n' text.toList).map String.ofList
  first ++ String.intercalate ("\n" ++ rest) lines

/-- A number in a column of five characters. -/
def numbered (n : Nat) : String :=
  let digits := toString n
  String.ofList (List.replicate (5 - digits.length) ' ') ++ digits ++ ": "

/-- The list of causes. -/
def causeLines : List String → List String
  | [] => []
  | [cause] => [indented "    " "    " cause]
  | causes => causes.zipIdx.map fun (cause, n) => indented (numbered n) "       " cause

/-- The report of a failure. -/
def Trouble.report (t : Trouble) : String :=
  let head := "Error: " ++ t.message
  match causeLines t.causes with
  | [] => head
  | lines => head ++ "\n\nCaused by:\n" ++ String.intercalate "\n" lines

/-! ## Commands -/

section

variable {m : Type → Type} [Monad m] [FileAccess m]

/-- A computation that may fail with trouble. -/
abbrev Attempt (m : Type → Type) := ExceptT Trouble m

/-- A result as an attempt. -/
def attempt {α : Type} (r : m (Result α)) : Attempt m α :=
  ExceptT.mk do return (← r).mapError .failed

/-- A result that needs no files as an attempt. -/
def settled {α : Type} (r : Result α) : Attempt m α := attempt (pure r)

/-- The request in a file. -/
def readRequest (path : String) : Attempt m Request := do
  let text ← ExceptT.mk do
    return (← FileAccess.readText path).mapError (Trouble.unreadableRequest path)
  settled (Request.parse text)

/-- The text of a JSON value on lines of its own. -/
def printed (json : Json) : String := json.pretty ++ "\n"

/-- Shows the plans for a request. The configuration is read before the request. -/
def runCompile (config request : String) : Attempt m String := do
  let schema ← attempt (ConfigFile.load config)
  let request ← readRequest request
  let plans ← settled (request.compile schema)
  return printed (.array (plans.map Plan.toJson))

/-- Whether a database is given by URL. -/
def isUrl (database : String) : Bool := "sqlite:".toList.isPrefixOf database.toList

/-- The engine for a database given by path or URL. -/
def engineFor (b : Builder) (database : String) : Attempt m Engine := do
  if isUrl database then attempt (b.connect database)
  else
    let opened ← attempt (Sqlite.openNamed database)
    settled (b.build opened.executor)

/-- Runs a request. The request is read first, then the configuration, then the database is
opened. -/
def runQuery (config database request : String) : Attempt m String := do
  let request ← readRequest request
  let builder ← attempt (Builder.empty.withConfigDirectory config)
  let engine ← engineFor builder database
  let rowSets ← settled (engine.execute request)
  return printed (.array (rowSets.map RowSet.toJson))

/-- What writing a configuration is reported as. -/
def outcomeText : ConfigFile.Outcome → String
  | .created => "New file written."
  | .updated => "File updated."
  | .unchanged => "No changes detected."

/-- Makes a configuration from a database. -/
def runIntrospect (database output : String) : Attempt m String := do
  let opened ← attempt (Sqlite.openNamed database)
  let document ← settled opened.document
  let outcome ← ExceptT.mk do
    return (← ConfigFile.write output document).mapError Trouble.configFile
  return outcomeText outcome ++ "\n"

/-- What a command prints. -/
def Command.run : Command → Attempt m String
  | .compile config request => runCompile config request
  | .query config database request => runQuery config database request
  | .introspect database output => runIntrospect database output

/-! ## The program -/

/-- How the program ends: its exit code and what it writes to its two outputs. -/
structure Outcome where
  code : Nat
  stdout : String
  stderr : String
deriving DecidableEq, Repr

/-- The name and the number of the program's version. -/
def versionText : String := "quarry 0.1.0\n"

/-- How the program is used. -/
def usageText : String :=
  "Usage: quarry [OPTIONS] <COMMAND>\n\nCommands:\n" ++
  "  compile     Print the SQL plans compiled for a request\n" ++
  "  query       Run a request against a SQLite database and print the row sets\n" ++
  "  introspect  Generate `config.json` from an existing SQLite database\n"

/-- How the program ends without running a command. -/
def Stop.outcome : Stop → Outcome
  | .usage => ⟨2, "", usageText⟩
  | .help => ⟨0, usageText, ""⟩
  | .version => ⟨0, versionText, ""⟩

/-- Runs the program. -/
def run (args : List String) : m Outcome := do
  match parse args with
  | .error stop => return stop.outcome
  | .ok command =>
    match ← command.run.run with
    | .ok output => return ⟨0, output, ""⟩
    | .error trouble => return ⟨1, "", trouble.report ++ "\n"⟩

end

end CollectionSql.CommandLine
