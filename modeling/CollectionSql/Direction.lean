/-!
# Small vocabularies

Words that requests, statements and SQL share: the direction of an ordering, and how many rows a
relationship may lead to.
-/

namespace CollectionSql

/-- The direction of an ordering. -/
inductive Direction where
  | asc
  | desc
deriving DecidableEq, Repr

/-- The number of rows that a relationship may lead to. -/
inductive Cardinality where
  /-- At most one. -/
  | object
  /-- Any number. -/
  | array
deriving DecidableEq, Repr

end CollectionSql
