import CollectionSql.Dict

/-!
# Command line arguments

The arguments are read from left to right, and the first that cannot be understood, or that asks for
help or the version, decides. A value may follow its option, stand after an equals sign, or be
joined to a one-letter option; one-letter flags may be joined to each other. After two dashes every
argument is a plain one.
-/

namespace CollectionSql.CommandLine

/-- An option with a value. -/
structure OptionSpec where
  letter : Char
  name : String
  /-- Whether the value may be empty. A path may not. -/
  mayBeEmpty : Bool
deriving DecidableEq, Repr

/-- A command: the options and the number of plain arguments that it takes. -/
structure CommandSpec where
  name : String
  options : List OptionSpec
  plainCount : Nat
deriving DecidableEq, Repr

/-- The directory with the configuration. -/
def configOption : OptionSpec := ⟨'c', "config", false⟩

/-- The directory to write the configuration into. -/
def outputOption : OptionSpec := ⟨'o', "output", false⟩

/-- The path of a database. -/
def databasePathOption : OptionSpec := ⟨'d', "database", false⟩

/-- The path or the URL of a database. -/
def databaseOption : OptionSpec := ⟨'d', "database", true⟩

/-- Shows the plans for a request. -/
def compileSpec : CommandSpec := ⟨"compile", [configOption], 1⟩

/-- Runs a request. -/
def querySpec : CommandSpec := ⟨"query", [configOption, databaseOption], 1⟩

/-- Makes a configuration from a database. -/
def introspectSpec : CommandSpec := ⟨"introspect", [databasePathOption, outputOption], 0⟩

/-- Shows how a command is used. -/
def helpSpec : CommandSpec := ⟨"help", [], 1⟩

/-- The commands. -/
def commandSpecs : List CommandSpec := [compileSpec, querySpec, introspectSpec, helpSpec]

/-- A command with its arguments. -/
inductive Command where
  | compile (config request : String)
  | query (config database request : String)
  | introspect (database output : String)
deriving DecidableEq, Repr

/-- Why no command is run. -/
inductive Stop where
  | usage
  | help
  | version
deriving DecidableEq, Repr

/-- How far the arguments have been read. -/
structure Progress where
  command : Option CommandSpec
  /-- Whether the flag for more output has been seen; naming the command starts anew. -/
  verbose : Bool
  values : Dict String
  plain : List String
  /-- An option that waits for its value. -/
  pending : Option OptionSpec
  /-- Whether only plain arguments are left. -/
  plainOnly : Bool
deriving DecidableEq, Repr

namespace Progress

/-- Nothing has been read. -/
def start : Progress := ⟨none, false, [], [], none, false⟩

/-- The options that may be given now. -/
def options (p : Progress) : List OptionSpec := (p.command.map CommandSpec.options).getD []

/-- Gives an option its value, which may be done once. -/
def setOption (p : Progress) (o : OptionSpec) (value : String) : Except Stop Progress :=
  if p.values.contains o.name then .error .usage
  else if value = "" ∧ !o.mayBeEmpty then .error .usage
  else .ok { p with values := p.values.insert o.name value, pending := none }

/-- Takes a flag, which may be done once. -/
def setVerbose (p : Progress) : Except Stop Progress :=
  if p.verbose then .error .usage else .ok { p with verbose := true }

/-- Asks for the version, which only the program itself has. -/
def askVersion (p : Progress) : Except Stop Progress :=
  if p.command.isNone then .error .version else .error .usage

/-- Takes a plain argument: the name of the command first, then what the command takes. -/
def addPlain (p : Progress) (arg : String) : Except Stop Progress :=
  match p.command with
  | none =>
    match commandSpecs.find? fun spec => spec.name == arg with
    | some spec =>
      if p.plainOnly then .error .usage
      else .ok { p with command := some spec, verbose := false }
    | none => .error .usage
  | some spec =>
    if arg = "" ∨ spec.plainCount ≤ p.plain.length then .error .usage
    else .ok { p with plain := p.plain ++ [arg] }

/-- Takes an option or a flag by its name, with the value after its equals sign if it has one. -/
def addLong (p : Progress) (name : String) (value : Option String) : Except Stop Progress :=
  match p.options.find? fun o => o.name == name with
  | some o =>
    match value with
    | some value => p.setOption o value
    | none => if p.values.contains o.name then .error .usage else .ok { p with pending := some o }
  | none =>
    if value.isSome then .error .usage
    else if name = "verbose" then p.setVerbose
    else if name = "help" then .error .help
    else if name = "version" then p.askVersion
    else .error .usage

/-- The value that is joined to a one-letter option. -/
def joinedValue : List Char → String
  | '=' :: cs => String.ofList cs
  | cs => String.ofList cs

/-- Takes one-letter flags up to an option, whose value the rest is. -/
def addLetters (p : Progress) : List Char → Except Stop Progress
  | [] => .ok p
  | c :: cs =>
    match p.options.find? fun o => o.letter == c with
    | some o =>
      if cs ≠ [] then p.setOption o (joinedValue cs)
      else if p.values.contains o.name then .error .usage
      else .ok { p with pending := some o }
    | none =>
      if c = 'v' then do (← p.setVerbose).addLetters cs
      else if c = 'h' then .error .help
      else if c = 'V' then p.askVersion
      else .error .usage

/-- The name and the value of a long argument. -/
def splitEquals (cs : List Char) : String × Option String :=
  match cs.dropWhile (· ≠ '=') with
  | [] => (String.ofList cs, none)
  | _ :: value => (String.ofList (cs.takeWhile (· ≠ '=')), some (String.ofList value))

/-- Takes an argument. -/
def add (p : Progress) (arg : String) : Except Stop Progress :=
  if p.plainOnly then p.addPlain arg
  else
    match p.pending, arg.toList with
    | some _, '-' :: _ :: _ => .error .usage
    | some o, _ => p.setOption o arg
    | none, ['-', '-'] => .ok { p with plainOnly := true }
    | none, '-' :: '-' :: cs => let (name, value) := splitEquals cs; p.addLong name value
    | none, '-' :: c :: cs => p.addLetters (c :: cs)
    | none, _ => p.addPlain arg

/-- The command when every argument has been read. -/
def finish (p : Progress) : Except Stop Command := do
  let some spec := p.command | throw .usage
  if p.pending.isSome then throw .usage
  let config := (p.values.get? configOption.name).getD "."
  let output := (p.values.get? outputOption.name).getD "."
  match spec.name, p.values.get? databaseOption.name, p.plain with
  | "compile", _, [request] => return .compile config request
  | "query", some database, [request] => return .query config database request
  | "introspect", some database, [] => return .introspect database output
  | "help", _, [] => throw .help
  | "help", _, [name] =>
    throw (if commandSpecs.any fun spec => spec.name == name then .help else .usage)
  | _, _, _ => throw .usage

end Progress

/-- The command that arguments give. -/
def parse (args : List String) : Except Stop Command := do
  (← args.foldlM Progress.add .start).finish

end CollectionSql.CommandLine
