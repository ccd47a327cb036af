import CollectionSql.Direction
import CollectionSql.Json.Basic

/-!
# Requests

A request asks for rows of a collection: which fields, under which condition, in which order, and
from which related collections. It names relationships and declares them in a table of its own.
-/

namespace CollectionSql.Request

/-- Arguments of a collection or a relationship. They are accepted and not used. -/
abbrev Arguments := Dict Json

/-- The collection in which an existence check looks. -/
inductive ExistsIn where
  | related (relationship : String) (arguments : Arguments)
  | unrelated (collection : String) (arguments : Arguments)

mutual

/-- A condition on a row. -/
inductive Expression where
  | and (operands : List Expression)
  | or (operands : List Expression)
  | not (operand : Expression)
  | isNull (column : ComparisonTarget)
  | compare (column : ComparisonTarget) (operator : String) (value : ComparisonValue)
  | existsIn (collection : ExistsIn) (predicate : Option Expression)

/-- One relationship of a path. -/
structure PathElement where
  relationship : String
  arguments : Arguments
  predicate : Option Expression

/-- A column that is compared: of the collection at the end of a path, or of the root collection. -/
inductive ComparisonTarget where
  | column (name : String) (path : List PathElement)
  | rootColumn (name : String)

/-- What a column is compared with. -/
inductive ComparisonValue where
  | column (column : ComparisonTarget)
  | scalar (value : Json)
  | var (name : String)

end

/-- A value computed from many rows. -/
inductive Aggregate where
  | columnCount (column : String) (distinct : Bool)
  | singleColumn (column function : String)
  | starCount
deriving DecidableEq, Repr

/-- What rows are ordered by. -/
inductive OrderByTarget where
  | column (name : String) (path : List PathElement)
  | singleColumnAggregate (column function : String) (path : List PathElement)
  | starCountAggregate (path : List PathElement)

/-- One criterion of an ordering. -/
structure OrderByElement where
  direction : Direction
  target : OrderByTarget

mutual

/-- What is asked of a collection. -/
structure Query where
  aggregates : Option (List (String × Aggregate))
  fields : Option (List (String × Field))
  limit : Option Nat
  offset : Option Nat
  orderBy : Option (List OrderByElement)
  predicate : Option Expression

/-- One entry of a result row: a column, or the rows of a related collection. -/
inductive Field where
  | column (column : String)
  | relationship (query : Query) (relationship : String) (arguments : Arguments)

end

/-- A relationship that a request declares: the fields of the two sides that must be equal, and the
collection that it leads to. -/
structure Relationship where
  columnMapping : Dict String
  cardinality : Cardinality
  targetCollection : String
  arguments : Arguments

end CollectionSql.Request

namespace CollectionSql

/-- A request for rows of a collection, run once for each set of variables. Without variable sets it
is run once with no variable bound. -/
structure Request where
  collection : String
  query : Request.Query
  arguments : Request.Arguments
  relationships : Dict Request.Relationship
  variableSets : Option (List (Dict Json))

end CollectionSql
