import CollectionSql.FileSystem.Fault
import CollectionSql.Url.Fault

/-!
# Errors

An error is a chain of causes, the outermost first: what was being done, and below it why it failed.
Each cause is a case of a type, and its wording stands in one function. Of which kinds an error is
depends on the whole chain.
-/

namespace CollectionSql

/-! ## Causes -/

/-- The role in which a document lists a field as a key. -/
inductive KeyRole where
  | primary
  | unique
  | nullable
deriving DecidableEq, Repr

/-- The name of a role. -/
def KeyRole.message : KeyRole → String
  | .primary => "primary key"
  | .unique => "unique key"
  | .nullable => "nullable key"

/-- Why a configuration cannot be used. -/
inductive ConfigurationFault where
  | notConfigured
  | noFieldDetails (collection : String)
  | typeForUnknownField (collection field : String)
  | keyNotField (role : KeyRole) (collection field : String)
  | nullablePrimaryKey (collection field : String)
  | fieldWithoutType (collection field : String)
  | unknownScalarType (name : String)
  | foreignKeyNotField (collection field : String)
  | foreignKeyTarget (collection field target : String)
  | unknownCollection (name : String)
  | unknownField (field collection : String)
  | malformedRequest
  | malformedDocument
  | unreadable (path : String) (fault : FileFault)
  | noSchema
  | invalidUrl (url : String) (fault : UrlFault)
  | unsupportedDatabase (scheme url : String)
  | notSqlite (url : String)
  | inColumn (table column : String)
  | noPrimaryKey (table column target : String)
  | stated (message : String) (source : Option String)
deriving DecidableEq, Repr

/-- The text of a configuration fault. -/
def ConfigurationFault.message : ConfigurationFault → String
  | .notConfigured => "connector is not configured"
  | .noFieldDetails c => s!"collection `{c}` has no field details"
  | .typeForUnknownField c f => s!"type given for unknown field `{c}.{f}`"
  | .keyNotField role c f => role.message ++ s!" `{c}.{f}` is not a field"
  | .nullablePrimaryKey c f => s!"primary key `{c}.{f}` is marked nullable"
  | .fieldWithoutType c f => s!"field `{c}.{f}` has no type"
  | .unknownScalarType name => s!"unknown scalar type `{name}`"
  | .foreignKeyNotField c f => s!"foreign key `{c}.{f}` is not a field"
  | .foreignKeyTarget c f t => s!"foreign key `{c}.{f}` targets unknown collection `{t}`"
  | .unknownCollection name => s!"unknown collection `{name}`"
  | .unknownField f c => s!"unknown field `{f}` on collection `{c}`"
  | .malformedRequest => "malformed query request"
  | .malformedDocument => "malformed config document"
  | .unreadable path fault => s!"failed to read `{path}`: " ++ fault.message
  | .noSchema => "no schema configured"
  | .invalidUrl url fault => s!"invalid connection URL `{url}`: " ++ fault.message
  | .unsupportedDatabase scheme url => s!"unsupported database; scheme={scheme}; url={url}"
  | .notSqlite url => s!"connection URL does not have a `sqlite` scheme; url={url}"
  | .inColumn table column => s!"column `{table}.{column}`"
  | .noPrimaryKey table column target =>
    s!"foreign key `{table}.{column}` references `{target}`, which has no primary key"
  | .stated message none => message
  | .stated message (some source) => s!"{message}: {source}"

/-- What is not supported. -/
inductive Feature where
  | aggregates
  | columnComparison
  | customOperator (name : String)
  | unrelatedExists
  | pathPredicate
  | orderByColumnAggregate
  | orderByStarCount
  | blobColumn
  | declaredType (declaration : String)
  | blobValue
  | stated (text : String)
deriving DecidableEq, Repr

/-- The text of a feature. -/
def Feature.message : Feature → String
  | .aggregates => "aggregates"
  | .columnComparison => "comparisons against another column"
  | .customOperator name => s!"binary comparison operator `{name}`"
  | .unrelatedExists => "exists checks against unrelated collections"
  | .pathPredicate => "predicates on relationship path elements"
  | .orderByColumnAggregate => "ordering by single column aggregates"
  | .orderByStarCount => "ordering by star count aggregates"
  | .blobColumn => "BLOB columns"
  | .declaredType declaration => s!"columns with declared type `{declaration}`"
  | .blobValue => "BLOB values"
  | .stated text => text

/-- Why a relationship does not lead anywhere. -/
inductive RelationshipFault where
  | undeclared
  | noForeignKey (current target : String)
  | unknownHandle
  | stated (reason : String)
deriving DecidableEq, Repr

/-- The text of a relationship fault. -/
def RelationshipFault.message : RelationshipFault → String
  | .undeclared => "not declared by the request"
  | .noForeignKey current target => s!"no foreign key between `{current}` and `{target}`"
  | .unknownHandle => "invalid relationship ID"
  | .stated reason => reason

/-- Why an executor's answer is not a row set. -/
inductive ResultFault where
  | rowCount (count : Nat)
  | columnCount (count : Nat)
  | notDocument (json : String)
  | malformed
  | missingRows
  | stated (message : String)
deriving DecidableEq, Repr

/-- The text of a result fault. -/
def ResultFault.message : ResultFault → String
  | .rowCount count => s!"expected exactly one row, got {count}"
  | .columnCount count => s!"expected exactly one column, got {count}"
  | .notDocument json => s!"expected a JSON document, got `{json}`"
  | .malformed => "malformed row set"
  | .missingRows => "row set is missing `rows`"
  | .stated message => message

/-- A failure inside an executor: what it says, and what its own causes say, outermost first. -/
structure Failure where
  message : String
  sources : List String
deriving DecidableEq, Repr

/-- One link of an error's chain. -/
inductive Cause where
  | configuration (fault : ConfigurationFault)
  | notImplemented (feature : Feature)
  | unresolvableRelationship (name : String) (fault : RelationshipFault)
  | unboundVariable (name : String)
  | executionFailed (failure : Failure)
  | invalidResult (fault : ResultFault)
deriving DecidableEq, Repr

/-- The text of a cause. A failed execution shows its whole chain of sources. -/
def Cause.message : Cause → String
  | .configuration fault => "invalid configuration: " ++ fault.message
  | .notImplemented feature => "not implemented: " ++ feature.message
  | .unresolvableRelationship name fault =>
    s!"unresolvable relationship `{name}`: " ++ fault.message
  | .unboundVariable name => s!"unbound variable `{name}`"
  | .executionFailed failure =>
    "execution failed: " ++ String.intercalate ": " (failure.message :: failure.sources)
  | .invalidResult fault => "invalid result: " ++ fault.message

/-! ## Chains -/

/-- The kinds of errors that callers tell apart. -/
inductive ErrorKind where
  | configuration
  | notImplemented
  | unresolvableRelationship
  | unboundVariable
  | execution
deriving DecidableEq, Repr

/-- Every kind. -/
def ErrorKind.all : List ErrorKind :=
  [.configuration, .notImplemented, .unresolvableRelationship, .unboundVariable, .execution]

/-- The kind of a cause. A failing executor and an answer that cannot be read are both errors of
execution. -/
def Cause.kind : Cause → ErrorKind
  | .configuration _ => .configuration
  | .notImplemented _ => .notImplemented
  | .unresolvableRelationship _ _ => .unresolvableRelationship
  | .unboundVariable _ => .unboundVariable
  | .executionFailed _ => .execution
  | .invalidResult _ => .execution

/-- An error: its outermost cause and the causes below it. -/
structure Error where
  outer : Cause
  inner : List Cause
deriving DecidableEq, Repr

namespace Error

/-- The error with a single cause. -/
def of (cause : Cause) : Error := ⟨cause, []⟩

/-- A configuration error. -/
def configuration (fault : ConfigurationFault) : Error := of (.configuration fault)

/-- An error about an unsupported feature. -/
def notImplemented (feature : Feature) : Error := of (.notImplemented feature)

/-- The causes, outermost first. -/
def causes (e : Error) : List Cause := e.outer :: e.inner

/-- The texts of the causes, outermost first. -/
def message (e : Error) : String := String.intercalate ": " (e.causes.map Cause.message)

/-- Whether some cause is of the given kind. -/
def is (e : Error) (kind : ErrorKind) : Bool := e.causes.any fun c => c.kind == kind

/-- The kinds of an error. -/
def kinds (e : Error) : List ErrorKind := ErrorKind.all.filter e.is

/-- Puts `consequent` around an error. Only a consequent that nobody else holds and that has no
cause of its own can take one; otherwise the error stays as it is, rather than being lost. -/
def context (e consequent : Error) (exclusive : Bool) : Error :=
  if exclusive && consequent.inner.isEmpty then ⟨consequent.outer, e.causes⟩ else e

/-- What an error reports as its sources: a failed execution, without the causes around it, then the
executor's failure and what lies below that. Other errors report none. -/
def sources (e : Error) : List String :=
  match e.outer with
  | .executionFailed failure => e.outer.message :: failure.message :: failure.sources
  | _ => []

end Error

/-- The result of an operation that may fail. -/
abbrev Result (α : Type) := Except Error α

end CollectionSql
