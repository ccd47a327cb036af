import CollectionSql.Operator
import CollectionSql.Request.Basic
import CollectionSql.Statement.Relationships
import CollectionSql.Statement.Variables

/-!
# Statements

A statement is a request in which every relationship name has become a handle and every value a
scalar. It is what the compiler works on.
-/

namespace CollectionSql.Statement

/-- Whose column a reference means. -/
inductive ColumnScope where
  /-- The collection of the selection or existence check that the reference stands in. -/
  | current
  /-- The root collection of the request. -/
  | root
deriving DecidableEq, Repr

/-- A reference to a column, at the end of a path of relationships. -/
structure ColumnRef where
  name : String
  path : List RelationshipId
  scope : ColumnScope
deriving DecidableEq, Repr

/-- A column of the current collection. -/
def ColumnRef.current (name : String) : ColumnRef := ⟨name, [], .current⟩

/-- A column of the root collection. -/
def ColumnRef.root (name : String) : ColumnRef := ⟨name, [], .root⟩

/-- The right side of a comparison. -/
inductive Operand where
  | value (value : Value)
  | var (name : String)
  | column (column : ColumnRef)
deriving DecidableEq, Repr

/-- Where an existence check looks. -/
inductive ExistsIn where
  | related (relationship : RelationshipId)
  | unrelated (collection : String)
deriving DecidableEq, Repr

/-- A condition on a row. A conjunction and a disjunction of nothing are both true. -/
inductive Condition where
  | isNull (column : ColumnRef)
  | compare (column : ColumnRef) (op : ComparisonOperator) (rhs : Operand)
  | and (operands : List Condition)
  | or (operands : List Condition)
  | not (operand : Condition)
  | existsIn (target : ExistsIn) (predicate : Option Condition)

/-- What rows are ordered by. -/
inductive OrderTarget where
  | column (column : ColumnRef)
  | singleColumnAggregate (column function : String) (path : List RelationshipId)
  | starCountAggregate (path : List RelationshipId)
deriving DecidableEq, Repr

/-- Whether the ordering is by a value computed from many rows. -/
def OrderTarget.isAggregate : OrderTarget → Bool
  | .column _ => false
  | _ => true

/-- One criterion of an ordering. -/
structure Order where
  target : OrderTarget
  direction : Direction
deriving DecidableEq, Repr

mutual

/-- One level of selection. -/
structure Query where
  fields : List (String × Field)
  aggregates : List (String × Request.Aggregate)
  filter : Option Condition
  orderBy : List Order
  limit : Option Nat
  offset : Option Nat

/-- One entry of a result row: a column, or a selection from a related collection. -/
inductive Field where
  | column (name : String)
  | relationship (relationship : RelationshipId) (query : Query)

end

/-- The query that asks for nothing. -/
def Query.empty : Query := ⟨[], [], none, [], none, none⟩

/-- Whether aggregates are asked for. -/
def Query.isAggregate (q : Query) : Bool := !q.aggregates.isEmpty

/-- Asks for a column under its own name. -/
def Query.column (q : Query) (name : String) : Query :=
  { q with fields := Dict.insert q.fields name (.column name) }

end CollectionSql.Statement

namespace CollectionSql

/-- A statement. Without variable sets it is run once with no variable bound. -/
structure Statement where
  collection : String
  query : Statement.Query
  relationships : Relationships
  variableSets : Option (List VariableSet)

end CollectionSql
