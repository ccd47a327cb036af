import CollectionSql.Schema.Basic
import CollectionSql.Sql.Basic
import CollectionSql.Statement.Basic

/-!
# Occurrences of collections

A collection may occur many times in one SQL statement, each time under a label of its own. Labels
are built from the label of the occurrence that leads there. An occurrence collects the joins that
the conditions and the ordering over it need.
-/

namespace CollectionSql.Selection

/-- What compilation reads and never changes. -/
structure Env where
  schema : Schema
  relationships : Relationships
  bindings : VariableSet
  /-- The collection that the statement is about. Its label is its name. -/
  root : Collection

/-- A collection under a label. -/
structure Occurrence where
  collection : Collection
  label : String
deriving DecidableEq, Repr

namespace Occurrence

/-- The root collection under its own name. -/
def root (env : Env) : Occurrence := ⟨env.root, env.root.name⟩

/-- The clause that selects from an occurrence. -/
def source (o : Occurrence) : Sql.Source := .table o.collection.name o.label

/-- A column of an occurrence, which must be a field of its collection. -/
def column (o : Occurrence) (name : String) : Result Sql.Column := do
  let _ ← o.collection.field name
  return ⟨o.label, name⟩

/-- The columns that tell the rows of an occurrence apart: the primary key, or the row number that
every table without one has. -/
def rowKey (o : Occurrence) : List Sql.Expr :=
  if o.collection.primaryKeys.isEmpty then [.col o.label "rowid"]
  else o.collection.primaryKeys.map (.col o.label)

end Occurrence

/-! ## Labels -/

/-- The label of a nested selection. -/
def nestedLabel (parent field : String) : String := parent ++ "_" ++ field

/-- The label of a collection that a relationship leads to. -/
def joinLabel (current relationship : String) : String := current ++ "_" ++ relationship

/-- The label of the collection in which an existence check looks. -/
def existsLabel (current : String) : String := current ++ "_exists"

/-! ## Joins -/

/-- Joins in the order of first use, each kept once, and whether they may repeat a row of the
occurrence that they start from. -/
structure Joins where
  list : List Sql.Join
  fansOut : Bool
deriving DecidableEq, Repr

namespace Joins

/-- No joins. -/
def empty : Joins := ⟨[], false⟩

/-- Adds a join unless an identical one is there. -/
def insert (js : Joins) (j : Sql.Join) (fansOut : Bool) : Joins :=
  ⟨if j ∈ js.list then js.list else js.list ++ [j], js.fansOut || fansOut⟩

end Joins

end CollectionSql.Selection
