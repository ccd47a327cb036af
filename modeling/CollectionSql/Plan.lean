import CollectionSql.Selection.Level
import CollectionSql.Sql.Printer
import CollectionSql.Statement.OfRequest

/-!
# Plans

A plan is a compiled SQL statement: a text with placeholders and the values bound to them. A request
is compiled into one plan for each of its variable sets, in order. The statement is the same for all
of them, and the first set for which it does not compile is the error.
-/

namespace CollectionSql

/-- A compiled statement. -/
structure Plan where
  select : Sql.Select

namespace Plan

/-- The text of a plan. -/
def sql (p : Plan) : String := p.select.text

/-- The values bound to the placeholders, in order. -/
def args (p : Plan) : List Value := p.select.arguments

/-- The number of placeholders in the text. -/
def placeholders (p : Plan) : Nat := Sql.placeholders p.sql

/-- The form of a plan. -/
def toJson (p : Plan) : Json :=
  .object [("sql", .string p.sql), ("args", .array (p.args.map Value.toJson))]

/-- The plan for one set of variables. -/
def compile (schema : Schema) (s : Statement) (bindings : VariableSet) : Result Plan := do
  return ⟨← Selection.compile schema s bindings⟩

end Plan

/-- The variable sets of a statement: without any there is one in which no variable has a value. -/
def Statement.runs (s : Statement) : List VariableSet := s.variableSets.getD [.empty]

/-- The plans for a request, one for each of its variable sets. -/
def Request.compile (schema : Schema) (r : Request) : Result (List Plan) := do
  let s ← Statement.ofRequest r
  s.runs.mapM (Plan.compile schema s)

end CollectionSql
