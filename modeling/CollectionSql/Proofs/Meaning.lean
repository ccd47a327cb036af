import CollectionSql.Proofs.Evaluation
import CollectionSql.Proofs.Labels

/-!
# What statements ask for

The answer to a statement over a database, read off the statement itself. There are no labels and no
SELECTs: a level takes the rows of its collection that are tied to the parent row, keeps those for
which its filter is true, puts them in order, cuts them and shows the fields of each. Conditions are
about two rows, the current one and the root one.

This is for statements whose column references have no paths. What a statement that compiles never
has (an unbound variable, an operator that SQL has not, a handle without a relationship, an ordering
by an aggregate) reads as null, as unknown, or as no rows.

Results:
* `Condition.truth`: the truth value of a condition.
* `Query.answer`: the answer to a query over candidate rows.
* `Statement.answer`: the answer to a statement.
-/

namespace CollectionSql.Statement

open Sql (Database Dialect TableRow Truth)

/-- What a statement is read against: a database, and the relationships and variables of the
statement. -/
structure World where
  dialect : Dialect
  rows : Database
  relationships : Relationships
  bindings : VariableSet

/-- The rows that a relationship leads to from a row: all of its pairs of columns must be equal. -/
def World.related (w : World) (id : RelationshipId) (here : TableRow) : List TableRow :=
  match w.relationships.get? id with
  | none => []
  | some r => (w.rows r.targetCollection).filter fun row =>
    r.columnMapping.all fun pair => w.dialect.compare .eq (here pair.1) (row pair.2) = .yes

/-- Whether a relationship leads to at most one row. -/
def World.isSingle (w : World) (id : RelationshipId) : Bool :=
  match w.relationships.get? id with
  | none => false
  | some r => r.cardinality == .object

/-- The value of a column without a path. -/
def ColumnRef.value (c : ColumnRef) (root here : TableRow) : Value :=
  match c.scope with
  | .current => here c.name
  | .root => root c.name

/-- The value of the right side of a comparison. -/
def Operand.read (w : World) (root here : TableRow) : Operand → Value
  | .value v => v
  | .var name => (w.bindings.values.get? name).getD .null
  | .column c => c.value root here

section

variable (w : World)

mutual

/-- The truth value of a condition about a row, inside a root row. -/
def Condition.truth : Condition → TableRow → TableRow → Truth
  | .isNull column, root, here => .ofBool (column.value root here).isNull
  | .compare column (.known op) rhs, root, here =>
    w.dialect.compare op (column.value root here) (rhs.read w root here)
  | .compare _ (.custom _) _, _, _ => .unknown
  | .and operands, root, here => .all (Condition.truths operands root here)
  | .or operands, root, here => .any (Condition.truths operands root here)
  | .not operand, root, here => (operand.truth root here).not
  | .existsIn (.related id) predicate, root, here =>
    .ofBool ((w.related id here).any fun row => Condition.truthOf? predicate root row = .yes)
  | .existsIn (.unrelated collection) predicate, root, _ =>
    .ofBool ((w.rows collection).any fun row => Condition.truthOf? predicate root row = .yes)

/-- The truth values of a list of conditions. -/
def Condition.truths : List Condition → TableRow → TableRow → List Truth
  | [], _, _ => []
  | c :: cs, root, here => c.truth root here :: Condition.truths cs root here

/-- The truth value of a condition that may be absent. -/
def Condition.truthOf? : Option Condition → TableRow → TableRow → Truth
  | none, _, _ => .yes
  | some c, root, here => c.truth root here

end

/-- The values that a row is ordered by. -/
def orderKeys (orders : List Order) (root here : TableRow) : List Value :=
  orders.map fun order =>
    match order.target with
    | .column c => c.value root here
    | _ => .null

/-- The rows of one page. A relationship to at most one row has no more than that, and after an
offset alone at most 2 ^ 31 - 1 rows follow. -/
def page {α : Type} (limit offset : Option Nat) (single : Bool) (rows : List α) : List α :=
  let rest := rows.drop (offset.getD 0)
  match limit, single with
  | none, true => rest.take 1
  | some count, true => rest.take (min count 1)
  | some count, false => rest.take count
  | none, false => if offset.isSome then rest.take 2147483647 else rest

mutual

/-- The answer to a query over candidate rows. At the root level every row is its own root row. -/
def Query.answer : Query → List TableRow → (TableRow → TableRow) → Bool → Json
  | ⟨fields, _, filter, orderBy, limit, offset⟩, candidates, rootOf, single =>
    let kept := candidates.filter fun row => Condition.truthOf? w filter (rootOf row) row = .yes
    let ordered := kept.insertionSort fun a b => w.dialect.beforeAll (orderBy.map Order.direction)
      (orderKeys orderBy (rootOf a) a) (orderKeys orderBy (rootOf b) b)
    let chosen := page limit offset single ordered
    .object [("rows", .array (chosen.map fun row =>
      .object (Query.members fields (rootOf row) row)))]

/-- The entries of a row of the answer. -/
def Query.members : List (String × Field) → TableRow → TableRow → List (String × Json)
  | [], _, _ => []
  | (name, field) :: rest, root, here =>
    (name, field.shown root here) :: Query.members rest root here

/-- What one entry of a row shows: a column, or the answer to a query over the rows that a
relationship leads to. -/
def Field.shown : Field → TableRow → TableRow → Json
  | .column name, _, here => (here name).toJson
  | .relationship id query, root, here =>
    query.answer (w.related id here) (fun _ => root) (w.isSingle id)

end

theorem Query.answer_eq (q : Query) (candidates : List TableRow) (rootOf : TableRow → TableRow)
    (single : Bool) :
    q.answer w candidates rootOf single = .object [("rows", .array
      ((page q.limit q.offset single
        ((candidates.filter fun row =>
            Condition.truthOf? w q.filter (rootOf row) row = .yes).insertionSort fun a b =>
          w.dialect.beforeAll (q.orderBy.map Order.direction)
            (orderKeys q.orderBy (rootOf a) a)
            (orderKeys q.orderBy (rootOf b) b))).map fun row =>
        .object (Query.members w q.fields (rootOf row) row)))] := by
  cases q
  rfl

end

end CollectionSql.Statement

namespace CollectionSql

/-- The answer to a statement over a database. -/
def Statement.answer (s : Statement) (dialect : Sql.Dialect) (rows : Sql.Database)
    (bindings : VariableSet) : Json :=
  s.query.answer ⟨dialect, rows, s.relationships, bindings⟩ (rows s.collection) id false

/-- No column reference of a statement follows a path. -/
def Statement.PathFree (s : Statement) : Prop :=
  ∀ paths ∈ s.query.levels, ∀ path ∈ paths, path = []

instance (s : Statement) : Decidable s.PathFree :=
  inferInstanceAs (Decidable (∀ paths ∈ s.query.levels, ∀ path ∈ paths, path = []))

end CollectionSql
