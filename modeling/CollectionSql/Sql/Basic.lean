import CollectionSql.Direction
import CollectionSql.Operator
import CollectionSql.Value

/-!
# SQL statements

The tree of a SELECT statement, as far as the compiler needs it. A table is always given a label
(its alias), and columns are qualified by labels.
-/

namespace CollectionSql.Sql

/-- A column of the table with a label. -/
structure Column where
  table : String
  column : String
deriving DecidableEq, Repr

/-- A table joined under a label where two columns are equal. -/
structure Join where
  table : String
  label : String
  lhs : Column
  rhs : Column
deriving DecidableEq, Repr

/-- How many rows to return, and how many to pass over before. -/
structure Limit where
  count : Nat
  offset : Option Nat
deriving DecidableEq, Repr

/-- The limit that goes with an offset alone, which SQLite would otherwise ignore. -/
def Limit.unbounded : Nat := 2147483647

/-- The clause for an optional limit and offset. -/
def Limit.of? : Option Nat → Option Nat → Option Limit
  | none, none => none
  | some count, offset => some ⟨count, offset⟩
  | none, some offset => some ⟨unbounded, some offset⟩

mutual

/-- An expression. -/
inductive Expr where
  | column (column : Column)
  /-- A column of a sub-select, without qualification. -/
  | ident (name : String)
  /-- A bound value, for which the text has a placeholder. -/
  | value (value : Value)
  | integer (value : Int)
  | binary (op : Operator) (lhs rhs : Expr)
  | isNull (operand : Expr)
  | and (operands : List Expr)
  | or (operands : List Expr)
  | not (operand : Expr)
  | existsIn (select : Select)
  | subquery (select : Select)
  | jsonObject (entries : List (String × Expr))
  | jsonGroupArray (operand : Expr)
  | json (operand : Expr)

/-- What rows are selected from. -/
inductive Source where
  | table (name label : String)
  | subquery (select : Select)

/-- A SELECT statement. The projected expressions may have labels. -/
structure Select where
  projection : List (Expr × Option String)
  source : Option Source
  joins : List Join
  filter : Option Expr
  groupBy : List Expr
  orderBy : List (Expr × Direction)
  limit : Option Limit

end

/-- A single expression without a source. -/
def Select.scalar (e : Expr) (label : Option String) : Select :=
  ⟨[(e, label)], none, [], none, [], [], none⟩

/-- A qualified column. -/
def Expr.col (table column : String) : Expr := .column ⟨table, column⟩

/-- The conjunction of conditions: none of nothing, and a single condition as it is. -/
def Expr.andAll : List Expr → Option Expr
  | [] => none
  | [e] => some e
  | es => some (.and es)

end CollectionSql.Sql
