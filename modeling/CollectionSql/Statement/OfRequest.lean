import CollectionSql.Statement.Basic

/-!
# From requests to statements

Every relationship that a request names must be one that it declares. Path elements may not carry a
condition, other than the empty conjunction. Nothing else is refused here: what the compiler does
not support is kept in the statement as it is.
-/

namespace CollectionSql.Statement

/-- The relationships that a request declares. -/
def relationshipsOf (declared : Dict Request.Relationship) : Relationships :=
  declared.foldl (fun table entry =>
    (table.insert {
      name := entry.1
      targetCollection := entry.2.targetCollection
      columnMapping := entry.2.columnMapping
      cardinality := entry.2.cardinality }).1) .empty

/-- Whether a path element carries no condition. -/
def isUnconditional : Request.PathElement → Bool
  | ⟨_, _, none⟩ => true
  | ⟨_, _, some (.and [])⟩ => true
  | _ => false

/-- The handle of one path element. -/
def hopOf (table : Relationships) (e : Request.PathElement) : Result RelationshipId :=
  if isUnconditional e then table.resolve e.relationship
  else .error (.notImplemented .pathPredicate)

/-- The handles of a path. -/
def pathOf (table : Relationships) (path : List Request.PathElement) :
    Result (List RelationshipId) :=
  path.mapM (hopOf table)

/-- The column of a comparison. -/
def columnOf (table : Relationships) : Request.ComparisonTarget → Result ColumnRef
  | .column name path => do return ⟨name, ← pathOf table path, .current⟩
  | .rootColumn name => .ok (.root name)

/-- The right side of a comparison. -/
def operandOf (table : Relationships) : Request.ComparisonValue → Result Operand
  | .column column => do return .column (← columnOf table column)
  | .scalar value => .ok (.value (.ofJson value))
  | .var name => .ok (.var name)

/-- Where an existence check looks. -/
def existsInOf (table : Relationships) : Request.ExistsIn → Result ExistsIn
  | .related relationship _ => do return .related (← table.resolve relationship)
  | .unrelated collection _ => .ok (.unrelated collection)

mutual

/-- A condition. -/
def conditionOf (table : Relationships) : Request.Expression → Result Condition
  | .and operands => do return .and (← conditionsOf table operands)
  | .or operands => do return .or (← conditionsOf table operands)
  | .not operand => do return .not (← conditionOf table operand)
  | .isNull column => do return .isNull (← columnOf table column)
  | .compare column operator value => do
    let column ← columnOf table column
    let rhs ← operandOf table value
    return .compare column (.ofName operator) rhs
  | .existsIn collection predicate => do
    let target ← existsInOf table collection
    let predicate ← conditionOf? table predicate
    return .existsIn target predicate

/-- A list of conditions. -/
def conditionsOf (table : Relationships) : List Request.Expression → Result (List Condition)
  | [] => .ok []
  | e :: es => do
    let c ← conditionOf table e
    let cs ← conditionsOf table es
    return c :: cs

/-- A condition that may be absent. -/
def conditionOf? (table : Relationships) : Option Request.Expression → Result (Option Condition)
  | none => .ok none
  | some e => do return some (← conditionOf table e)

end

/-- What rows are ordered by. -/
def orderTargetOf (table : Relationships) : Request.OrderByTarget → Result OrderTarget
  | .column name path => do return .column ⟨name, ← pathOf table path, .current⟩
  | .singleColumnAggregate column function path => do
    return .singleColumnAggregate column function (← pathOf table path)
  | .starCountAggregate path => do return .starCountAggregate (← pathOf table path)

/-- A criterion of an ordering. -/
def orderOf (table : Relationships) (e : Request.OrderByElement) : Result Order := do
  return ⟨← orderTargetOf table e.target, e.direction⟩

mutual

/-- A query. -/
def queryOf (table : Relationships) : Request.Query → Result Query
  | ⟨aggregates, fields, limit, offset, orderBy, predicate⟩ => do
    let fields ← fieldsOf? table fields
    let filter ← conditionOf? table predicate
    let orderBy ← (orderBy.getD []).mapM (orderOf table)
    return ⟨fields, aggregates.getD [], filter, orderBy, limit, offset⟩

/-- The fields of a query, none if they are absent. -/
def fieldsOf? (table : Relationships) :
    Option (List (String × Request.Field)) → Result (List (String × Field))
  | none => .ok []
  | some fields => fieldsOf table fields

/-- A list of fields. -/
def fieldsOf (table : Relationships) :
    List (String × Request.Field) → Result (List (String × Field))
  | [] => .ok []
  | (name, field) :: rest => do
    let field ← fieldOf table field
    let rest ← fieldsOf table rest
    return (name, field) :: rest

/-- A field. -/
def fieldOf (table : Relationships) : Request.Field → Result Field
  | .column name => .ok (.column name)
  | .relationship query relationship _ => do
    let id ← table.resolve relationship
    let query ← queryOf table query
    return .relationship id query

end

/-- The statement that a request stands for. -/
def ofRequest (r : Request) : Result Statement := do
  let table := relationshipsOf r.relationships
  let query ← queryOf table r.query
  return {
    collection := r.collection
    query
    relationships := table
    variableSets := r.variableSets.map fun sets =>
      sets.map fun set => .ofPairs (set.map fun e => (e.1, .ofJson e.2)) }

end CollectionSql.Statement
