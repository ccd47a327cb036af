/-!
# Comparison operators

The operators that SQL and requests share: how SQL writes them and how requests name them.
-/

namespace CollectionSql

/-- A comparison operator. -/
inductive Operator where
  | eq
  | ne
  | like
  | glob
  | lt
  | gt
  | le
  | ge
deriving DecidableEq, Repr

namespace Operator

/-- The operator as SQL writes it. -/
def sql : Operator → String
  | .eq => "="
  | .ne => "!="
  | .like => "LIKE"
  | .glob => "GLOB"
  | .lt => "<"
  | .gt => ">"
  | .le => "<="
  | .ge => ">="

/-- The operator that a request names. -/
def ofName? : String → Option Operator
  | "_eq" => some .eq
  | "_neq" => some .ne
  | "_like" => some .like
  | "_glob" => some .glob
  | "_lt" => some .lt
  | "_gt" => some .gt
  | "_lte" => some .le
  | "_gte" => some .ge
  | _ => none

end Operator

/-- The operator of a comparison, which need not be known. -/
inductive ComparisonOperator where
  | known (op : Operator)
  | custom (name : String)
deriving DecidableEq, Repr

namespace ComparisonOperator

/-- The operator that a request names. -/
def ofName (name : String) : ComparisonOperator :=
  match Operator.ofName? name with
  | some op => .known op
  | none => .custom name

/-- How the operator is shown: as in SQL, or by its name if SQL has none. -/
def text : ComparisonOperator → String
  | .known op => op.sql
  | .custom name => name

/-- Whether the operator is one that SQL has not. -/
def isCustom : ComparisonOperator → Bool
  | .known _ => false
  | .custom _ => true

end ComparisonOperator

end CollectionSql
