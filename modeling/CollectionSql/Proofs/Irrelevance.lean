import CollectionSql.Proofs.Labels
import CollectionSql.Proofs.Renumbering

/-!
# Parts of a request without effect

Arguments are accepted and not used. An empty conjunction on a path element says as much as no
condition, and an empty list of fields, aggregates or criteria as much as none. Of the relationships
that a request declares, those that its query names matter, and not the order of their declarations.

A query is made bare by removing all this, and two requests are alike if they have the same bare
query and declare the same under the names that it uses. They have the same plans, or the same
error. The handles of their statements may differ.

Results:
* `queryOf_bare`: a query is lowered like its bare form.
* `Alike.of_mem_iff`: declarations may be reordered, and unused ones added or removed.
* `Request.compile_of_alike`: requests that are alike compile alike.
-/

namespace CollectionSql

namespace Request

/-! ## Bare queries -/

/-- Where an existence check looks, without arguments. -/
def ExistsIn.bare : ExistsIn → ExistsIn
  | .related relationship _ => .related relationship []
  | .unrelated collection _ => .unrelated collection []

/-- A condition on a path element, none if it is the empty conjunction. -/
def PathElement.withoutEmptyAnd : Option Expression → Option Expression
  | some (.and []) => none
  | predicate => predicate

mutual

/-- A condition without arguments, and without empty conjunctions on its paths. -/
def Expression.bare : Expression → Expression
  | .and operands => .and (Expression.bareAll operands)
  | .or operands => .or (Expression.bareAll operands)
  | .not operand => .not operand.bare
  | .isNull column => .isNull column.bare
  | .compare column operator value => .compare column.bare operator value.bare
  | .existsIn collection predicate => .existsIn collection.bare (Expression.bare? predicate)

/-- A list of conditions, each made bare. -/
def Expression.bareAll : List Expression → List Expression
  | [] => []
  | e :: es => e.bare :: Expression.bareAll es

/-- A condition that may be absent, made bare. -/
def Expression.bare? : Option Expression → Option Expression
  | none => none
  | some e => some e.bare

/-- A path element without arguments, and without a condition that is the empty conjunction. -/
def PathElement.bare : PathElement → PathElement
  | ⟨relationship, _, predicate⟩ =>
    ⟨relationship, [], PathElement.withoutEmptyAnd (Expression.bare? predicate)⟩

/-- A path, each element made bare. -/
def PathElement.bareAll : List PathElement → List PathElement
  | [] => []
  | e :: es => e.bare :: PathElement.bareAll es

/-- The column of a comparison, its path made bare. -/
def ComparisonTarget.bare : ComparisonTarget → ComparisonTarget
  | .column name path => .column name (PathElement.bareAll path)
  | .rootColumn name => .rootColumn name

/-- What a column is compared with, its path made bare. -/
def ComparisonValue.bare : ComparisonValue → ComparisonValue
  | .column other => .column other.bare
  | .scalar value => .scalar value
  | .var name => .var name

end

/-- What rows are ordered by, its path made bare. -/
def OrderByTarget.bare : OrderByTarget → OrderByTarget
  | .column name path => .column name (PathElement.bareAll path)
  | .singleColumnAggregate name function path =>
    .singleColumnAggregate name function (PathElement.bareAll path)
  | .starCountAggregate path => .starCountAggregate (PathElement.bareAll path)

/-- A criterion of an ordering, its path made bare. -/
def OrderByElement.bare (e : OrderByElement) : OrderByElement := ⟨e.direction, e.target.bare⟩

mutual

/-- A query without arguments and without empty conjunctions on its paths. Its fields, aggregates
and criteria are there, if only as empty lists. -/
def Query.bare : Query → Query
  | ⟨aggregates, fields, limit, offset, orderBy, predicate⟩ =>
    ⟨some (aggregates.getD []), some (Field.bareOf fields), limit, offset,
      some ((orderBy.getD []).map OrderByElement.bare), Expression.bare? predicate⟩

/-- The entries of a row, each made bare, none if they are absent. -/
def Field.bareOf : Option (List (String × Field)) → List (String × Field)
  | none => []
  | some fields => Field.bareAll fields

/-- The entries of a row, each made bare. -/
def Field.bareAll : List (String × Field) → List (String × Field)
  | [] => []
  | (name, field) :: rest => (name, field.bare) :: Field.bareAll rest

/-- An entry of a row, made bare. -/
def Field.bare : Field → Field
  | .column name => .column name
  | .relationship query relationship _ => .relationship query.bare relationship []

end

/-- A declared relationship without arguments. -/
def Relationship.bare (declared : Relationship) : Relationship := { declared with arguments := [] }

theorem Field.bareOf_eq (fields : Option (List (String × Field))) :
    Field.bareOf fields = Field.bareAll (fields.getD []) := by
  cases fields with
  | none => rw [Field.bareOf, Option.getD_none, Field.bareAll]
  | some fields => rw [Field.bareOf, Option.getD_some]

end Request

/-! ## Bare queries are lowered alike -/

namespace Statement

section

variable (t : Relationships)

theorem isUnconditional_bare (e : Request.PathElement) :
    isUnconditional e.bare = isUnconditional e := by
  obtain ⟨relationship, arguments, _ | predicate⟩ := e
  · rfl
  · cases predicate with
    | and operands => cases operands <;> rfl
    | _ => rfl

theorem hopOf_bare (e : Request.PathElement) : hopOf t e.bare = hopOf t e := by
  have hname : e.bare.relationship = e.relationship := by
    cases e
    rfl
  rw [hopOf, hopOf, isUnconditional_bare, hname]

theorem pathOf_bare (path : List Request.PathElement) :
    pathOf t (Request.PathElement.bareAll path) = pathOf t path := by
  unfold pathOf
  induction path with
  | nil => rfl
  | cons e path ih =>
    rw [Request.PathElement.bareAll, List.mapM_cons, List.mapM_cons, hopOf_bare, ih]

theorem columnOf_bare (column : Request.ComparisonTarget) :
    columnOf t column.bare = columnOf t column := by
  cases column with
  | column name path =>
    rw [Request.ComparisonTarget.bare, columnOf, columnOf, pathOf_bare]
  | rootColumn name => rfl

theorem operandOf_bare (value : Request.ComparisonValue) :
    operandOf t value.bare = operandOf t value := by
  cases value with
  | column other => rw [Request.ComparisonValue.bare, operandOf, operandOf, columnOf_bare]
  | scalar value => rfl
  | var name => rfl

theorem existsInOf_bare (collection : Request.ExistsIn) :
    existsInOf t collection.bare = existsInOf t collection := by
  cases collection <;> rfl

theorem conditionsOf_bare {es : List Request.Expression}
    (ih : ∀ e ∈ es, conditionOf t e.bare = conditionOf t e) :
    conditionsOf t (Request.Expression.bareAll es) = conditionsOf t es := by
  induction es with
  | nil => rfl
  | cons e es ihes =>
    obtain ⟨ihe, ihrest⟩ := List.forall_mem_cons.mp ih
    rw [Request.Expression.bareAll, conditionsOf, conditionsOf, ihe, ihes ihrest]

theorem conditionOf?_bare_of {p : Option Request.Expression}
    (ih : ∀ e, p = some e → conditionOf t e.bare = conditionOf t e) :
    conditionOf? t (Request.Expression.bare? p) = conditionOf? t p := by
  cases p with
  | none => rfl
  | some e => rw [Request.Expression.bare?, conditionOf?, conditionOf?, ih e rfl]

theorem conditionOf_bare (e : Request.Expression) : conditionOf t e.bare = conditionOf t e := by
  induction e using Request.Expression.induction with
  | and operands ih =>
    rw [Request.Expression.bare, conditionOf, conditionOf, conditionsOf_bare t ih]
  | or operands ih =>
    rw [Request.Expression.bare, conditionOf, conditionOf, conditionsOf_bare t ih]
  | not operand ih => rw [Request.Expression.bare, conditionOf, conditionOf, ih]
  | isNull column => rw [Request.Expression.bare, conditionOf, conditionOf, columnOf_bare]
  | compare column operator value =>
    rw [Request.Expression.bare, conditionOf, conditionOf, columnOf_bare, operandOf_bare]
  | existsIn collection predicate ih =>
    rw [Request.Expression.bare, conditionOf, conditionOf, existsInOf_bare,
      conditionOf?_bare_of t ih]

theorem orderOf_bare (e : Request.OrderByElement) : orderOf t e.bare = orderOf t e := by
  have htarget : orderTargetOf t e.target.bare = orderTargetOf t e.target := by
    cases e.target <;>
      rw [Request.OrderByTarget.bare, orderTargetOf, orderTargetOf, pathOf_bare]
  rw [Request.OrderByElement.bare, orderOf, orderOf, htarget]

theorem fieldsOf_bare {fields : List (String × Request.Field)}
    (ih : ∀ key nested relationship arguments,
      (key, Request.Field.relationship nested relationship arguments) ∈ fields →
        queryOf t nested.bare = queryOf t nested) :
    fieldsOf t (Request.Field.bareAll fields) = fieldsOf t fields := by
  induction fields with
  | nil => rfl
  | cons entry rest ihrest =>
    obtain ⟨key, field⟩ := entry
    have hfield : fieldOf t field.bare = fieldOf t field := by
      cases field with
      | column name => rfl
      | relationship nested relationship arguments =>
        rw [Request.Field.bare, fieldOf, fieldOf,
          ih key nested relationship arguments List.mem_cons_self]
    rw [Request.Field.bareAll, fieldsOf, fieldsOf, hfield, ihrest]
    intro key nested relationship arguments hmem
    exact ih key nested relationship arguments (List.mem_cons_of_mem _ hmem)

/-- A query is lowered like its bare form. -/
theorem queryOf_bare (q : Request.Query) : queryOf t q.bare = queryOf t q := by
  induction q using Request.Query.induction with
  | step q ih =>
    obtain ⟨aggregates, fields, limit, offset, orderBy, predicate⟩ := q
    have hfields : fieldsOf? t (some (Request.Field.bareOf fields)) = fieldsOf? t fields := by
      rw [fieldsOf?, Request.Field.bareOf_eq, fieldsOf_bare t ih, fieldsOf?_eq]
    have hpredicate := conditionOf?_bare_of t (p := predicate) fun e _ => conditionOf_bare t e
    have horderBy : ((orderBy.getD []).map Request.OrderByElement.bare).mapM (orderOf t) =
        (orderBy.getD []).mapM (orderOf t) := by
      rw [List.mapM_map]
      exact congrArg (fun f => List.mapM f _) (funext (orderOf_bare t))
    rw [Request.Query.bare, queryOf, queryOf, hfields, hpredicate, Option.getD_some,
      Option.getD_some, horderBy]

end

end Statement

/-! ## Requests that are alike -/

namespace Request

/-- What a request declares under a name, without arguments. -/
def declared? (r : Request) (name : String) : Option Relationship :=
  ((Dict.ofPairs r.relationships).get? name).map Relationship.bare

/-- Two requests that have the same bare query and declare the same under the names that it uses.
Nothing is asked of the arguments of the requests. -/
structure Alike (r r' : Request) : Prop where
  collection : r.collection = r'.collection
  query : r.query.bare = r'.query.bare
  declared : ∀ use ∈ r.query.uses, r.declared? use.relationship = r'.declared? use.relationship
  variableSets : r.variableSets = r'.variableSets

/-- Declarations may stand in another order, and those that the query does not name may be others or
absent. -/
theorem Alike.of_mem_iff (r : Request) {declared : Dict Relationship}
    (hr : (Dict.keys r.relationships).Nodup) (hd : declared.keys.Nodup)
    (h : ∀ use ∈ r.query.uses, ∀ d,
      (use.relationship, d) ∈ declared ↔ (use.relationship, d) ∈ r.relationships) :
    r.Alike { r with relationships := declared } where
  collection := rfl
  query := rfl
  declared use huse := by
    refine congrArg (Option.map Relationship.bare) (Option.ext fun d => ?_)
    rw [Dict.ofPairs_of_nodup hr, Dict.ofPairs_of_nodup hd, Dict.get?_eq_some_iff hr,
      Dict.get?_eq_some_iff hd]
    exact (h use huse d).symm
  variableSets := rfl

/-- A request is compiled with any table like every request with the same bare query. -/
theorem compileIn_of_bare_eq {r r' : Request} (schema : Schema) (table : Relationships)
    (hcollection : r.collection = r'.collection) (hquery : r.query.bare = r'.query.bare)
    (hsets : r.variableSets = r'.variableSets) :
    r.compileIn schema table = r'.compileIn schema table := by
  rw [compileIn, compileIn, ← Statement.queryOf_bare, hquery, Statement.queryOf_bare, runs, runs,
    hsets, hcollection]

theorem get?_relationshipsOf_eq_map (r : Request) (name : String) :
    (Statement.relationshipsOf r.relationships).entries.get? name =
      (r.declared? name).map fun d => d.named name := by
  have hlookup := Dict.get?_ofPairs_map (fun name d => Relationship.named d name) r.relationships
  rw [Statement.entries_relationshipsOf, hlookup, declared?, Option.map_map]
  rfl

/-- **Main theorem.** Irrelevant parts of a request do not change its plans. Requests that are alike
have the same plans, or the same error. -/
theorem compile_of_alike {r r' : Request} (h : r.Alike r') (schema : Schema) :
    r.compile schema = r'.compile schema := by
  have htables : ∀ use ∈ r.query.uses,
      (Statement.relationshipsOf r.relationships).entries.get? use.relationship =
        (Statement.relationshipsOf r'.relationships).entries.get? use.relationship := by
    intro use huse
    rw [get?_relationshipsOf_eq_map, get?_relationshipsOf_eq_map, h.declared use huse]
  calc r.compile schema
      = r.compileIn schema (Statement.relationshipsOf r.relationships) :=
        compile_eq_compileIn schema r
    _ = r.compileIn schema (Statement.relationshipsOf r'.relationships) :=
        compileIn_congr schema htables
    _ = r'.compileIn schema (Statement.relationshipsOf r'.relationships) :=
        compileIn_of_bare_eq schema _ h.collection h.query h.variableSets
    _ = r'.compile schema := (compile_eq_compileIn schema r').symm

/-- `ordersByOrg` in more words. All arguments are given and no list or condition is absent, the
declarations stand in another order, and one more comes first. So every name has another handle. -/
def verboseOrdersByOrg : Request where
  collection := "orders"
  query := {
    aggregates := some []
    fields := some [("id", .column "id")]
    limit := none
    offset := none
    orderBy := some [
      ⟨.asc, .column "name" [⟨"buyer", [("active", .bool true)], some (.and [])⟩,
        ⟨"org", [], some (.and [])⟩]⟩,
      ⟨.asc, .column "name" [⟨"recipient", [("active", .null)], none⟩]⟩]
    predicate := none }
  arguments := [("active", .bool true)]
  relationships := [
    ("invoice", ⟨[("id", "order_id")], .array, "invoices", []⟩),
    ("recipient", ⟨[("org_id", "id")], .object, "orgs", [("active", .bool false)]⟩),
    ("org", ⟨[("org_id", "id")], .object, "orgs", []⟩),
    ("buyer", ⟨[("user_id", "id")], .object, "users", []⟩)]
  variableSets := none

theorem verboseOrdersByOrg_same_plans :
    ∃ plans, (Selection.ordersByOrg "recipient").compile shop = .ok plans ∧
      verboseOrdersByOrg.compile shop = .ok plans := by
  have halike : (Selection.ordersByOrg "recipient").Alike verboseOrdersByOrg :=
    ⟨rfl, rfl, List.map_inj_left.mp rfl, rfl⟩
  refine ⟨_, rfl, ?_⟩
  rw [← compile_of_alike halike shop]
  rfl

end Request

end CollectionSql
