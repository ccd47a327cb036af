import CollectionSql.Sql.Basic

/-!
# The tables of a statement

The tables that a SELECT statement names, in the order in which a database looks them up: first
those of its source and joins, then those of the statements inside its expressions, clause by
clause.
-/

namespace CollectionSql.Sql

mutual

/-- The tables of the statements inside an expression. -/
def Expr.tables : Expr → List String
  | .column _ | .ident _ | .value _ | .integer _ => []
  | .binary _ lhs rhs => lhs.tables ++ rhs.tables
  | .isNull operand => operand.tables
  | .and operands => Expr.tablesOfAll operands
  | .or operands => Expr.tablesOfAll operands
  | .not operand => operand.tables
  | .existsIn select => select.tables
  | .subquery select => select.tables
  | .jsonObject entries => Expr.tablesOfEntries entries
  | .jsonGroupArray operand => operand.tables
  | .json operand => operand.tables

/-- The tables of a list of expressions. -/
def Expr.tablesOfAll : List Expr → List String
  | [] => []
  | e :: es => e.tables ++ Expr.tablesOfAll es

/-- The tables of the values of a JSON object. -/
def Expr.tablesOfEntries : List (String × Expr) → List String
  | [] => []
  | (_, e) :: rest => e.tables ++ Expr.tablesOfEntries rest

/-- The tables of a statement. -/
def Select.tables : Select → List String
  | ⟨projection, source, joins, filter, groupBy, orderBy, _⟩ =>
    Select.tablesOfSource source ++ joins.map Join.table ++ Select.tablesOfProjection projection ++
      Select.tablesOfFilter filter ++ Expr.tablesOfAll groupBy ++ Select.tablesOfOrders orderBy

/-- The tables of a source. -/
def Select.tablesOfSource : Option Source → List String
  | none => []
  | some (.table name _) => [name]
  | some (.subquery select) => select.tables

/-- The tables of the projected expressions. -/
def Select.tablesOfProjection : List (Expr × Option String) → List String
  | [] => []
  | (e, _) :: rest => e.tables ++ Select.tablesOfProjection rest

/-- The tables of a filter. -/
def Select.tablesOfFilter : Option Expr → List String
  | none => []
  | some e => e.tables

/-- The tables of an ordering. -/
def Select.tablesOfOrders : List (Expr × Direction) → List String
  | [] => []
  | (e, _) :: rest => e.tables ++ Select.tablesOfOrders rest

end

end CollectionSql.Sql
