import CollectionSql.Selection.Filter

/-!
# Levels of selection

Every level of a query becomes a sub-select with one JSON object a row, folded into an object whose
`rows` are all of them. A nested level is an entry of its parent's object, tied to the parent's row.

A join over a relationship to many can repeat a row; grouping by the row's key folds the copies.
-/

namespace CollectionSql.Selection

open Statement (Order Query)

/-- The column that holds the object of each row. -/
def rowColumn : String := "r"

/-- The key of the list of rows. -/
def rowsKey : String := "rows"

/-- The column that holds the answer. -/
def dataColumn : String := "data"

/-- A criterion of an ordering, which must be a column. -/
def orderExpr (env : Env) (o : Occurrence) (order : Order) (js : Joins) :
    Result ((Sql.Expr × Direction) × Joins) :=
  match order.target with
  | .column c => do
    let (e, js) ← columnExpr env o c js
    return ((e, order.direction), js)
  | .singleColumnAggregate _ _ _ => .error (.notImplemented .orderByColumnAggregate)
  | .starCountAggregate _ => .error (.notImplemented .orderByStarCount)

/-- The criteria of an ordering from left to right. -/
def orderExprs (env : Env) (o : Occurrence) :
    List Order → Joins → Result (List (Sql.Expr × Direction) × Joins)
  | [], js => .ok ([], js)
  | order :: orders, js => do
    let (e, js) ← orderExpr env o order js
    let (es, js) ← orderExprs env o orders js
    return (e :: es, js)

/-- The limit of a level: a level that stands for at most one row has no more than that. -/
def levelLimit (limit : Option Nat) (single : Bool) : Option Nat :=
  if single then some (min (limit.getD 1) 1) else limit

/-- The rows of a level, each as a JSON object. -/
def rowSelect (o : Occurrence) (entries : List (String × Sql.Expr)) (conditions : List Sql.Expr)
    (orders : List (Sql.Expr × Direction)) (js : Joins) (limit : Option Sql.Limit) :
    Sql.Select where
  projection := [(.jsonObject entries, some rowColumn)]
  source := some o.source
  joins := js.list
  filter := Sql.Expr.andAll conditions
  groupBy := if js.fansOut then o.rowKey else []
  orderBy := orders
  limit := limit

/-- All rows of a level folded into one object. -/
def foldSelect (rows : Sql.Select) : Sql.Select where
  projection := [(.jsonObject [(rowsKey, .jsonGroupArray (.json (.ident rowColumn)))], none)]
  source := some (.subquery rows)
  joins := []
  filter := none
  groupBy := []
  orderBy := []
  limit := none

mutual

/-- A level over an occurrence that is tied to its parent by the given conditions. -/
def level (env : Env) : Query → Occurrence → List Sql.Expr → Bool → Result Sql.Select
  | ⟨fields, aggregates, filter, orderBy, limit, offset⟩, o, tie, single => do
    unless aggregates.isEmpty do
      throw (.notImplemented .aggregates)
    let entries ← entries env fields o
    let (conditions, js) ← optionalCondition env filter o .empty
    let (orders, js) ← orderExprs env o orderBy js
    let limit := Sql.Limit.of? (levelLimit limit single) offset
    return foldSelect (rowSelect o entries (tie ++ conditions) orders js limit)

/-- The entries of a row from left to right. -/
def entries (env : Env) :
    List (String × Statement.Field) → Occurrence → Result (List (String × Sql.Expr))
  | [], _ => .ok []
  | (name, field) :: rest, o => do
    let e ← entry env field o name
    let es ← entries env rest o
    return (name, e) :: es

/-- One entry of a row: a column, or the nested level that a relationship leads to. -/
def entry (env : Env) : Statement.Field → Occurrence → String → Result Sql.Expr
  | .column column, o, _ => do return .column (← o.column column)
  | .relationship id query, o, name => do
    let r ← env.relationships.get id
    let inner : Occurrence :=
      ⟨← env.schema.collection r.targetCollection, nestedLabel o.label name⟩
    let tie ← correlation r o inner
    let rows ← level env query inner tie (r.cardinality == .object)
    return .json (.subquery rows)

end

/-- The SQL statement for one set of variables: a single row with a single column, which holds the
whole answer. -/
def compile (schema : Schema) (s : Statement) (bindings : VariableSet) : Result Sql.Select := do
  let root ← schema.collection s.collection
  let env : Env := ⟨schema, s.relationships, bindings, root⟩
  let rows ← level env s.query (.root env) [] false
  return .scalar (.subquery rows) (some dataColumn)

end CollectionSql.Selection
