import CollectionSql.Proofs.Compilation

/-!
# Walks over SQL trees

A walk over a SELECT meets, from left to right, every SELECT inside it, every join, every grouping
key, and every qualified column and unqualified name in the other clauses. It tells of each what it
may refer to. A SELECT sees the tables that it selects from and those of the SELECTs around it; a
sub-select in a source clause sees only what is around the SELECT that it is the source of; and a
join condition sees the tables up to its own.

Results:
* `Scopes.binding?`: the nearest SELECT that binds a label, by lexical scoping.
* `Select.visits`: what a walk meets.
* `existsExpr_visits`, `rowSelect_visits`, `foldSelect_visits`: the walks over the SELECTs that
  compilation makes.
-/

namespace CollectionSql.Sql

/-! ## Scopes -/

/-- What a SELECT binds: tables under labels, and the columns of the sub-select it selects from. -/
structure Scope where
  tables : List (String × String)
  columns : List String
deriving DecidableEq, Repr

/-- What the SELECTs around a place bind, the innermost first. -/
abbrev Scopes := List Scope

/-- The labels that a SELECT binds. -/
def Scope.labels (s : Scope) : List String := s.tables.map Prod.fst

/-- The nearest SELECT that binds a label, with those around it. -/
def Scopes.binding? : Scopes → String → Option Scopes
  | [], _ => none
  | s :: outer, label => if label ∈ s.labels then some (s :: outer) else binding? outer label

/-- What a source clause binds. -/
def Source.scope : Source → Scope
  | .table name label => ⟨[(label, name)], []⟩
  | .subquery select => ⟨[], select.projection.filterMap Prod.snd⟩

/-- What a join binds. -/
def Join.item (j : Join) : String × String := (j.label, j.table)

/-- The tables that a SELECT selects from before any join. -/
def Select.sourceTables (s : Select) : List (String × String) :=
  (s.source.map fun source => source.scope.tables).getD []

/-- What a SELECT binds. -/
def Select.scope (s : Select) : Scope where
  tables := s.sourceTables ++ s.joins.map Join.item
  columns := (s.source.map fun source => source.scope.columns).getD []

/-! ## Walks -/

/-- Something that a walk meets, with what it may refer to. -/
inductive Visit where
  | select (select : Select)
  | column (column : Column) (around : Scopes)
  | ident (name : String) (around : Scopes)
  | join (join : Join) (tables : List (String × String))
  | key (key : Expr) (around : Scopes)

/-- What a walk over joins meets, after the given tables. -/
def Join.visits : List Join → List (String × String) → List Visit
  | [], _ => []
  | j :: js, tables => .join j (tables ++ [j.item]) :: Join.visits js (tables ++ [j.item])

mutual

/-- What a walk over an expression meets. -/
def Expr.visits : Expr → Scopes → List Visit
  | .column c, around => [.column c around]
  | .ident name, around => [.ident name around]
  | .value _, _ => []
  | .integer _, _ => []
  | .binary _ lhs rhs, around => lhs.visits around ++ rhs.visits around
  | .isNull operand, around => operand.visits around
  | .and operands, around => Expr.visitsOfAll operands around
  | .or operands, around => Expr.visitsOfAll operands around
  | .not operand, around => operand.visits around
  | .existsIn select, around => select.visits around
  | .subquery select, around => select.visits around
  | .jsonObject entries, around => Expr.visitsOfEntries entries around
  | .jsonGroupArray operand, around => operand.visits around
  | .json operand, around => operand.visits around

/-- What a walk over a list of expressions meets. -/
def Expr.visitsOfAll : List Expr → Scopes → List Visit
  | [], _ => []
  | e :: es, around => e.visits around ++ Expr.visitsOfAll es around

/-- What a walk over the values of a JSON object meets. -/
def Expr.visitsOfEntries : List (String × Expr) → Scopes → List Visit
  | [], _ => []
  | (_, e) :: rest, around => e.visits around ++ Expr.visitsOfEntries rest around

/-- What a walk over a SELECT meets: itself, then what is inside its clauses. -/
def Select.visits : Select → Scopes → List Visit
  | ⟨projection, source, joins, filter, groupBy, orderBy, limit⟩, around =>
    let s : Select := ⟨projection, source, joins, filter, groupBy, orderBy, limit⟩
    .select s :: (Select.visitsOfProjection projection (s.scope :: around) ++
      Select.visitsOfSource source around ++ Join.visits joins s.sourceTables ++
      Select.visitsOfFilter filter (s.scope :: around) ++
      groupBy.map (Visit.key · (s.scope :: around)) ++
      Select.visitsOfOrders orderBy (s.scope :: around))

/-- What a walk over the projected expressions meets. -/
def Select.visitsOfProjection : List (Expr × Option String) → Scopes → List Visit
  | [], _ => []
  | (e, _) :: rest, around => e.visits around ++ Select.visitsOfProjection rest around

/-- What a walk over a source clause meets. -/
def Select.visitsOfSource : Option Source → Scopes → List Visit
  | none, _ => []
  | some (.table _ _), _ => []
  | some (.subquery select), around => select.visits around

/-- What a walk over a filter meets. -/
def Select.visitsOfFilter : Option Expr → Scopes → List Visit
  | none, _ => []
  | some e, around => e.visits around

/-- What a walk over an ordering meets. -/
def Select.visitsOfOrders : List (Expr × Direction) → Scopes → List Visit
  | [], _ => []
  | (e, _) :: rest, around => e.visits around ++ Select.visitsOfOrders rest around

end

/-- A qualified column that a walk meets outside joins and keys. -/
def Visit.reference? : Visit → Option (Column × Scopes)
  | .column c around => some (c, around)
  | _ => none

/-- A SELECT that a walk meets. -/
def Visit.select? : Visit → Option Select
  | .select s => some s
  | _ => none

/-- A SELECT and all SELECTs inside it. -/
def Select.selects (s : Select) : List Select := (s.visits []).filterMap Visit.select?

theorem Select.mem_selects {s select : Select} :
    select ∈ s.selects ↔ .select select ∈ s.visits [] := by
  simp only [Select.selects, List.mem_filterMap]
  constructor
  · rintro ⟨v, hv, hselect⟩
    cases v <;> cases hselect
    exact hv
  · exact fun h => ⟨_, h, rfl⟩

/-- A conjunction of conditions is walked like the list of them, however it is written. -/
theorem Select.visitsOfFilter_andAll (es : List Expr) (around : Scopes) :
    Select.visitsOfFilter (Expr.andAll es) around = Expr.visitsOfAll es around := by
  match es with
  | [] => rfl
  | [e] => simp [Expr.andAll, Select.visitsOfFilter, Expr.visitsOfAll]
  | e :: e' :: es => simp [Expr.andAll, Select.visitsOfFilter, Expr.visits]

theorem Expr.visitsOfAll_append (es es' : List Expr) (around : Scopes) :
    Expr.visitsOfAll (es ++ es') around =
      Expr.visitsOfAll es around ++ Expr.visitsOfAll es' around := by
  induction es with
  | nil => rfl
  | cons e es ih => simp [Expr.visitsOfAll, ih]

theorem Expr.visits_col (table column : String) (around : Scopes) :
    (Expr.col table column).visits around = [.column ⟨table, column⟩ around] := by
  rw [Expr.col, Expr.visits]

end CollectionSql.Sql

namespace CollectionSql.Selection

/-! ## The SELECTs that compilation makes -/

/-- What an occurrence binds: its table, then its joins. -/
def Occurrence.scope (o : Occurrence) (js : Joins) : Sql.Scope :=
  ⟨(o.label, o.collection.name) :: js.list.map Sql.Join.item, []⟩

theorem Occurrence.scope_labels (o : Occurrence) (js : Joins) :
    (o.scope js).labels = o.label :: js.list.map Sql.Join.label := by
  simp [scope, Sql.Scope.labels, Sql.Join.item, Function.comp_def]

variable (o : Occurrence) (conds : List Sql.Expr) (js : Joins) (around : Sql.Scopes)

/-- The SELECT of an existence check. -/
def existsSelect : Sql.Select where
  projection := [(.integer 1, none)]
  source := some o.source
  joins := js.list
  filter := Sql.Expr.andAll conds
  groupBy := []
  orderBy := []
  limit := none

theorem existsExpr_eq : existsExpr o conds js = .existsIn (existsSelect o conds js) := rfl

theorem existsSelect_scope : (existsSelect o conds js).scope = o.scope js := rfl

theorem existsExpr_visits :
    (existsExpr o conds js).visits around = .select (existsSelect o conds js) ::
      (Sql.Join.visits js.list [(o.label, o.collection.name)] ++
        Sql.Expr.visitsOfAll conds (o.scope js :: around)) := by
  rw [existsExpr_eq, Sql.Expr.visits, existsSelect, Sql.Select.visits,
    Sql.Select.visitsOfFilter_andAll]
  simp only [Sql.Select.visitsOfProjection, Sql.Expr.visits, Sql.Select.visitsOfSource,
    Occurrence.source, Sql.Select.visitsOfOrders, List.map_nil, List.append_nil, List.nil_append]
  rfl

variable (es : List (String × Sql.Expr)) (orders : List (Sql.Expr × Direction))
  (limit : Option Sql.Limit)

theorem rowSelect_scope : (rowSelect o es conds orders js limit).scope = o.scope js := rfl

theorem rowSelect_visits :
    (rowSelect o es conds orders js limit).visits around =
      .select (rowSelect o es conds orders js limit) ::
        (Sql.Expr.visitsOfEntries es (o.scope js :: around) ++
          Sql.Join.visits js.list [(o.label, o.collection.name)] ++
          Sql.Expr.visitsOfAll conds (o.scope js :: around) ++
          (if js.fansOut then o.rowKey else []).map (.key · (o.scope js :: around)) ++
          Sql.Select.visitsOfOrders orders (o.scope js :: around)) := by
  rw [rowSelect, Sql.Select.visits, Sql.Select.visitsOfFilter_andAll]
  simp only [Sql.Select.visitsOfProjection, Sql.Expr.visits, Sql.Select.visitsOfSource,
    Occurrence.source, List.append_nil]
  rfl

theorem foldSelect_visits (rows : Sql.Select) :
    (foldSelect rows).visits around = .select (foldSelect rows) ::
      .ident rowColumn (⟨[], rows.projection.filterMap Prod.snd⟩ :: around) ::
        rows.visits around := by
  rw [foldSelect, Sql.Select.visits]
  simp only [Sql.Select.visitsOfProjection, Sql.Expr.visits, Sql.Expr.visitsOfEntries,
    Sql.Select.visitsOfSource, Sql.Join.visits, Sql.Select.visitsOfFilter,
    Sql.Select.visitsOfOrders, List.map_nil, List.append_nil, List.singleton_append]
  rfl

theorem scalar_visits (s : Sql.Select) (label : Option String) :
    (Sql.Select.scalar (.subquery s) label).visits around =
      .select (.scalar (.subquery s) label) :: s.visits (⟨[], []⟩ :: around) := by
  rw [Sql.Select.scalar, Sql.Select.visits]
  simp only [Sql.Select.visitsOfProjection, Sql.Expr.visits, Sql.Select.visitsOfSource,
    Sql.Join.visits, Sql.Select.visitsOfFilter, Sql.Select.visitsOfOrders, List.map_nil,
    List.append_nil]
  rfl

end CollectionSql.Selection
