import CollectionSql.Selection.Path

/-!
# Conditions

Conditions over an occurrence become SQL expressions. The paths of their columns add joins to the
occurrence. An existence check is a sub-select with an occurrence of its own, so its joins stay
inside it.
-/

namespace CollectionSql.Selection

open Statement (ColumnRef Condition Operand)

/-- A column reference. Root columns are columns of the root occurrence, wherever they stand. -/
def columnExpr (env : Env) (o : Occurrence) (c : ColumnRef) (js : Joins) :
    Result (Sql.Expr × Joins) :=
  match c.scope with
  | .current => do
    let (o, js) ← followPath env c.path o js
    return (.column (← o.column c.name), js)
  | .root => do return (.column (← (Occurrence.root env).column c.name), js)

/-- The right side of a comparison, which is always a bound value. -/
def operandExpr (env : Env) : Operand → Result Sql.Expr
  | .value v => .ok (.value v)
  | .var name => do return .value (← env.bindings.get name)
  | .column _ => .error (.notImplemented .columnComparison)

/-- The operator of a comparison. -/
def operatorOf : ComparisonOperator → Result Operator
  | .known op => .ok op
  | .custom name => .error (.notImplemented (.customOperator name))

/-- The relationship of an existence check. -/
def existsRelationship (env : Env) : Statement.ExistsIn → Result Relationship
  | .related id => env.relationships.get id
  | .unrelated _ => .error (.notImplemented .unrelatedExists)

/-- The check that a row of the target satisfies the conditions. -/
def existsExpr (target : Occurrence) (conditions : List Sql.Expr) (js : Joins) : Sql.Expr :=
  .existsIn {
    projection := [(.integer 1, none)]
    source := some target.source
    joins := js.list
    filter := Sql.Expr.andAll conditions
    groupBy := []
    orderBy := []
    limit := none }

mutual

/-- A condition. In a comparison, errors of the operand come before errors of the column. -/
def condition (env : Env) : Condition → Occurrence → Joins → Result (Sql.Expr × Joins)
  | .isNull column, o, js => do
    let (e, js) ← columnExpr env o column js
    return (.isNull e, js)
  | .compare column op rhs, o, js => do
    let rhs ← operandExpr env rhs
    let (lhs, js) ← columnExpr env o column js
    let op ← operatorOf op
    return (.binary op lhs rhs, js)
  | .and operands, o, js => do
    let (es, js) ← conditions env operands o js
    return (.and es, js)
  | .or operands, o, js => do
    let (es, js) ← conditions env operands o js
    return (.or es, js)
  | .not operand, o, js => do
    let (e, js) ← condition env operand o js
    return (.not e, js)
  | .existsIn target predicate, o, js => do
    let r ← existsRelationship env target
    let inner : Occurrence := ⟨← env.schema.collection r.targetCollection, existsLabel o.label⟩
    let tie ← correlation r o inner
    let (es, innerJoins) ← optionalCondition env predicate inner .empty
    return (existsExpr inner (tie ++ es) innerJoins, js)

/-- Conditions from left to right. -/
def conditions (env : Env) : List Condition → Occurrence → Joins → Result (List Sql.Expr × Joins)
  | [], _, js => .ok ([], js)
  | c :: cs, o, js => do
    let (e, js) ← condition env c o js
    let (es, js) ← conditions env cs o js
    return (e :: es, js)

/-- A condition that may be absent, as a list of at most one. -/
def optionalCondition (env : Env) :
    Option Condition → Occurrence → Joins → Result (List Sql.Expr × Joins)
  | none, _, js => .ok ([], js)
  | some c, o, js => do
    let (e, js) ← condition env c o js
    return ([e], js)

end

end CollectionSql.Selection
