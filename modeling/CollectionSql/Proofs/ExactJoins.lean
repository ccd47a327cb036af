import CollectionSql.Proofs.JoinLists
import CollectionSql.Proofs.Trees

/-!
# Which joins each SELECT has

A compiled statement selects from a table for each selection level and for each existence check.
What such a SELECT joins depends on the column references of its own block alone: those of the
filter, from left to right and without entering existence checks, and then those of the ordering.
Their hops are joined one after the other, and repetitions are left out. References in nested
levels and in existence checks belong to other blocks, and so do their joins.

The blocks of a statement are read off the statement, in the order in which a walk over the compiled
statement meets their SELECTs.

Results:
* `insertAll_empty`: adding hops keeps the first of each join.
* `columnExpr_columns`, `condition_columns`: the columns that references become.
* `queryBlocks`: the blocks of a query.
* `condition_blocks`, `level_blocks`: each block has its SELECT.
* `compile_joins_exact`: the SELECTs of a compiled statement, block by block.
-/

namespace CollectionSql.Sql

/-! ## Columns outside sub-selects -/

mutual

/-- The columns of an expression that stand outside of its sub-selects, from left to right. -/
def Expr.ownColumns : Expr → List Column
  | .column c => [c]
  | .ident _ => []
  | .value _ => []
  | .integer _ => []
  | .binary _ lhs rhs => lhs.ownColumns ++ rhs.ownColumns
  | .isNull operand => operand.ownColumns
  | .and operands => Expr.ownColumnsOfAll operands
  | .or operands => Expr.ownColumnsOfAll operands
  | .not operand => operand.ownColumns
  | .existsIn _ => []
  | .subquery _ => []
  | .jsonObject entries => Expr.ownColumnsOfEntries entries
  | .jsonGroupArray operand => operand.ownColumns
  | .json operand => operand.ownColumns

/-- The columns of a list of expressions that stand outside of sub-selects. -/
def Expr.ownColumnsOfAll : List Expr → List Column
  | [] => []
  | e :: es => e.ownColumns ++ Expr.ownColumnsOfAll es

/-- The columns in the values of a JSON object that stand outside of sub-selects. -/
def Expr.ownColumnsOfEntries : List (String × Expr) → List Column
  | [] => []
  | (_, e) :: rest => e.ownColumns ++ Expr.ownColumnsOfEntries rest

end

/-- The columns in the filter and the ordering of a SELECT, outside of sub-selects. -/
def Select.ownColumns (s : Select) : List Column :=
  (s.filter.map Expr.ownColumns).getD [] ++ s.orderBy.flatMap fun item => item.1.ownColumns

theorem Expr.ownColumnsOfAll_append (es es' : List Expr) :
    Expr.ownColumnsOfAll (es ++ es') = Expr.ownColumnsOfAll es ++ Expr.ownColumnsOfAll es' := by
  induction es with
  | nil => rfl
  | cons e es ih => simp [Expr.ownColumnsOfAll, ih]

theorem Expr.ownColumns_andAll (es : List Expr) :
    ((Expr.andAll es).map Expr.ownColumns).getD [] = Expr.ownColumnsOfAll es := by
  match es with
  | [] => rfl
  | [e] => simp [Expr.andAll, Expr.ownColumnsOfAll]
  | e :: e' :: es => simp [Expr.andAll, Expr.ownColumns]

/-! ## SELECTs from tables -/

/-- A SELECT from a table that a walk meets. -/
def Visit.tableSelect? : Visit → Option Select
  | .select s =>
    match s.source with
    | some (.table _ _) => some s
    | _ => none
  | _ => none

/-- The SELECTs from tables among what a walk meets. -/
def Visit.tableSelects (visits : List Visit) : List Select := visits.filterMap Visit.tableSelect?

/-- The SELECTs from tables inside a SELECT, in the order of a walk. -/
def Select.tableSelects (s : Select) : List Select := Visit.tableSelects (s.visits [])

theorem Visit.tableSelects_append (vs vs' : List Visit) :
    Visit.tableSelects (vs ++ vs') = Visit.tableSelects vs ++ Visit.tableSelects vs' :=
  List.filterMap_append

theorem Join.tableSelects_visits (js : List Join) (tables : List (String × String)) :
    Visit.tableSelects (Join.visits js tables) = [] := by
  induction js generalizing tables with
  | nil => rfl
  | cons j js ih => exact ih _

end CollectionSql.Sql

namespace CollectionSql.Statement

/-! ## The references of a block -/

mutual

/-- The column references that a condition makes from its own row, from left to right. Those inside
an existence check are made from another row. -/
def Condition.references : Condition → List ColumnRef
  | .isNull column => [column]
  | .compare column _ _ => [column]
  | .and operands => Condition.referencesOfAll operands
  | .or operands => Condition.referencesOfAll operands
  | .not operand => operand.references
  | .existsIn _ _ => []

/-- The references of a list of conditions. -/
def Condition.referencesOfAll : List Condition → List ColumnRef
  | [] => []
  | c :: cs => c.references ++ Condition.referencesOfAll cs

end

/-- The references of a condition that may be absent. -/
def Condition.referencesOf? : Option Condition → List ColumnRef
  | none => []
  | some c => c.references

/-- The references of a criterion of an ordering. -/
def Order.references (order : Order) : List ColumnRef :=
  match order.target with
  | .column c => [c]
  | _ => []

/-- The references that a query makes from its own rows: those of its filter, then those of its
ordering. -/
def Query.references (q : Query) : List ColumnRef :=
  Condition.referencesOf? q.filter ++ q.orderBy.flatMap Order.references

theorem Condition.pathsOfAll_eq {cs : List Condition}
    (ih : ∀ c ∈ cs, c.paths = c.references.map ColumnRef.joinPath) :
    Condition.pathsOfAll cs = (Condition.referencesOfAll cs).map ColumnRef.joinPath := by
  induction cs with
  | nil => rfl
  | cons c cs ihcs =>
    obtain ⟨hc, hcs⟩ := List.forall_mem_cons.mp ih
    rw [Condition.pathsOfAll, Condition.referencesOfAll, List.map_append, hc, ihcs hcs]

theorem Condition.paths_eq (c : Condition) : c.paths = c.references.map ColumnRef.joinPath := by
  induction c using Condition.induction with
  | isNull column => rfl
  | compare column op rhs => rfl
  | and operands ih => exact Condition.pathsOfAll_eq ih
  | or operands ih => exact Condition.pathsOfAll_eq ih
  | not operand ih => exact ih
  | existsIn target predicate _ => rfl

theorem Condition.pathsOf?_eq (p : Option Condition) :
    Condition.pathsOf? p = (Condition.referencesOf? p).map ColumnRef.joinPath := by
  cases p with
  | none => rfl
  | some c => exact c.paths_eq

theorem Order.paths_eq (order : Order) :
    order.paths = order.references.map ColumnRef.joinPath := by
  rw [Order.paths, Order.references]
  cases order.target <;> rfl

theorem Query.paths_eq (q : Query) : q.paths = q.references.map ColumnRef.joinPath := by
  have horders : Order.paths = fun order => order.references.map ColumnRef.joinPath :=
    funext Order.paths_eq
  rw [Query.paths, Query.references, List.map_append, Condition.pathsOf?_eq, List.map_flatMap,
    horders]

end CollectionSql.Statement

namespace CollectionSql.Selection

open Statement (ColumnRef Condition Order Query)

/-! ## Joins in the order of first use -/

/-- Adding hops to no joins keeps the first of each join. -/
theorem insertAll_empty (hs : List Hop) :
    Joins.empty.insertAll hs = ⟨(hs.map Hop.join).eraseDups, hs.any Hop.fansOut⟩ := by
  induction hs using List.reverseRecOn with
  | nil => rfl
  | append_singleton hs h ih =>
    rw [Joins.insertAll_append, ih, List.map_append, List.map_singleton, eraseDups_concat,
      List.any_append]
    simp [Joins.insert, List.mem_eraseDups]

/-! ## Columns of references -/

/-- The column that a reference becomes: of the occurrence that its path leads to, or of the root
occurrence. -/
def referenceColumn (env : Env) (o : Occurrence) (c : ColumnRef) : Sql.Column :=
  match c.scope with
  | .current => ⟨(reached o (pathHops env o c.path)).label, c.name⟩
  | .root => ⟨env.root.name, c.name⟩

/-- The columns of the conditions that tie a child to its parent. -/
def tieColumns (parent child : String) (mapping : List (String × String)) : List Sql.Column :=
  mapping.flatMap fun pair => [⟨parent, pair.1⟩, ⟨child, pair.2⟩]

theorem columnExpr_columns {env : Env} {o : Occurrence} {c : ColumnRef} {js js' : Joins}
    {e : Sql.Expr} (h : columnExpr env o c js = .ok (e, js')) :
    e = .column (referenceColumn env o c) := by
  obtain ⟨target, hs, href, -, rfl, -⟩ := columnExpr_eq_ok_iff.mp h
  unfold reference? at href
  unfold referenceColumn
  cases hscope : c.scope with
  | current =>
    rw [hscope] at href
    obtain ⟨hs', hhs, heq⟩ := Option.map_eq_some_iff.mp href
    obtain ⟨rfl, -⟩ := Prod.mk.inj heq
    simp only [pathHops, hhs, Option.getD_some]
    rfl
  | root =>
    rw [hscope] at href
    cases href
    rfl

theorem ties_columns (parent child : String) (mapping : List (String × String)) :
    Sql.Expr.ownColumnsOfAll (mapping.map (tieExpr parent child)) =
      tieColumns parent child mapping := by
  induction mapping with
  | nil => rfl
  | cons pair rest ih =>
    rw [List.map_cons, Sql.Expr.ownColumnsOfAll, ih]
    rfl

theorem conditions_columns {env : Env} {o : Occurrence} {cs : List Condition}
    (ih : ∀ c ∈ cs, ∀ js e js', condition env c o js = .ok (e, js') →
      e.ownColumns = c.references.map (referenceColumn env o))
    {js js' : Joins} {es : List Sql.Expr} (h : conditions env cs o js = .ok (es, js')) :
    Sql.Expr.ownColumnsOfAll es =
      (Condition.referencesOfAll cs).map (referenceColumn env o) := by
  induction cs generalizing js es with
  | nil =>
    rw [(conditions_nil_iff.mp h).1]
    rfl
  | cons c cs ihcs =>
    obtain ⟨ihc, ihrest⟩ := List.forall_mem_cons.mp ih
    obtain ⟨e, rest, between, he, hrest, rfl⟩ := conditions_cons_iff.mp h
    rw [Sql.Expr.ownColumnsOfAll, Condition.referencesOfAll, List.map_append, ihc _ _ _ he,
      ihcs ihrest hrest]

/-- A condition refers to the columns of its own references, in order. -/
theorem condition_columns {env : Env} (c : Condition) {o : Occurrence} {js js' : Joins}
    {e : Sql.Expr} (h : condition env c o js = .ok (e, js')) :
    e.ownColumns = c.references.map (referenceColumn env o) := by
  induction c using Condition.induction generalizing js e js' with
  | isNull column =>
    obtain ⟨col, hcol, rfl⟩ := condition_isNull_iff.mp h
    rw [columnExpr_columns hcol]
    rfl
  | compare column op rhs =>
    obtain ⟨known, v, col, -, -, hcol, rfl⟩ := condition_compare_iff.mp h
    rw [columnExpr_columns hcol]
    rfl
  | and operands ih =>
    obtain ⟨es, hes, rfl⟩ := condition_and_iff.mp h
    exact conditions_columns (fun c hc _ _ _ => ih c hc) hes
  | or operands ih =>
    obtain ⟨es, hes, rfl⟩ := condition_or_iff.mp h
    exact conditions_columns (fun c hc _ _ _ => ih c hc) hes
  | not operand ih =>
    obtain ⟨e', he', rfl⟩ := condition_not_iff.mp h
    rw [Sql.Expr.ownColumns]
    exact ih he'
  | existsIn target predicate _ =>
    obtain ⟨_, _, _, _, _, -, -, -, -, -, rfl, -⟩ := condition_existsIn_iff.mp h
    rfl

theorem optionalCondition_columns {env : Env} {o : Occurrence} {p : Option Condition}
    {js js' : Joins} {es : List Sql.Expr} (h : optionalCondition env p o js = .ok (es, js')) :
    Sql.Expr.ownColumnsOfAll es = (Condition.referencesOf? p).map (referenceColumn env o) := by
  cases p with
  | none =>
    rw [(optionalCondition_none_iff.mp h).1]
    rfl
  | some c =>
    obtain ⟨e, he, rfl⟩ := optionalCondition_some_iff.mp h
    rw [Sql.Expr.ownColumnsOfAll, Sql.Expr.ownColumnsOfAll, List.append_nil,
      condition_columns c he]
    rfl

theorem orderExprs_columns {env : Env} {o : Occurrence} {orders : List Order} {js js' : Joins}
    {es : List (Sql.Expr × Direction)} (h : orderExprs env o orders js = .ok (es, js')) :
    es.flatMap (fun item => item.1.ownColumns) =
      (orders.flatMap Order.references).map (referenceColumn env o) := by
  induction orders generalizing js es with
  | nil =>
    rw [(orderExprs_nil_iff.mp h).1]
    rfl
  | cons order orders ih =>
    obtain ⟨entry, rest, between, hfirst, hrest, rfl⟩ := orderExprs_cons_iff.mp h
    obtain ⟨c, e, hc, he, rfl⟩ := orderExpr_eq_ok_iff.mp hfirst
    have hreferences : order.references = [c] := by rw [Order.references, hc]
    rw [List.flatMap_cons, List.flatMap_cons, List.map_append, ih hrest, hreferences,
      columnExpr_columns he]
    rfl

/-! ## Blocks -/

/-- What a SELECT from a table is made from: the occurrence that it is about, the columns that tie
it to its parent, the references that are made from its rows, and whether it is a selection level or
an existence check. -/
structure Block where
  occurrence : Occurrence
  tie : List Sql.Column
  references : List ColumnRef
  isLevel : Bool

/-- The hops of the references of a block, in order. -/
def Block.hops (env : Env) (b : Block) : List Hop :=
  b.references.flatMap fun c => pathHops env b.occurrence c.joinPath

/-- The relationship behind a handle, and the collection that it leads to. -/
def target? (env : Env) (id : RelationshipId) : Option (Relationship × Collection) := do
  let r ← env.relationships.get? id
  let c ← env.schema.collections.get? r.targetCollection
  return (r, c)

theorem target?_eq_some {env : Env} {id : RelationshipId} {r : Relationship} {c : Collection}
    (hr : env.relationships.get? id = some r)
    (hc : env.schema.collections.get? r.targetCollection = some c) :
    target? env id = some (r, c) := by
  simp [target?, hr, hc]

section

variable (env : Env)

mutual

/-- The blocks of the existence checks inside a condition. -/
def conditionBlocks : Condition → Occurrence → List Block
  | .isNull _, _ => []
  | .compare _ _ _, _ => []
  | .and operands, o => conditionsBlocks operands o
  | .or operands, o => conditionsBlocks operands o
  | .not operand, o => conditionBlocks operand o
  | .existsIn (.related id) predicate, o =>
    match target? env id with
    | none => []
    | some (r, c) =>
      let inner : Occurrence := ⟨c, existsLabel o.label⟩
      ⟨inner, tieColumns o.label inner.label r.columnMapping, Condition.referencesOf? predicate,
        false⟩ :: optionalConditionBlocks predicate inner
  | .existsIn (.unrelated _) _, _ => []

/-- The blocks of the existence checks inside a list of conditions. -/
def conditionsBlocks : List Condition → Occurrence → List Block
  | [], _ => []
  | c :: cs, o => conditionBlocks c o ++ conditionsBlocks cs o

/-- The blocks of the existence checks inside a condition that may be absent. -/
def optionalConditionBlocks : Option Condition → Occurrence → List Block
  | none, _ => []
  | some c, o => conditionBlocks c o

end

mutual

/-- The blocks of a query: its own, those of the levels nested in it, and those of the existence
checks in its filter. -/
def queryBlocks : Query → Occurrence → List Sql.Column → List Block
  | ⟨fields, aggregates, filter, orderBy, limit, offset⟩, o, tie =>
    -- entries are projected, and projections are walked before filters
    ⟨o, tie, Query.references ⟨fields, aggregates, filter, orderBy, limit, offset⟩, true⟩ ::
      (fieldsBlocks fields o ++ optionalConditionBlocks env filter o)

/-- The blocks of the entries of a row. -/
def fieldsBlocks : List (String × Statement.Field) → Occurrence → List Block
  | [], _ => []
  | (name, field) :: rest, o => fieldBlocks field o name ++ fieldsBlocks rest o

/-- The blocks of one entry of a row. -/
def fieldBlocks : Statement.Field → Occurrence → String → List Block
  | .column _, _, _ => []
  | .relationship id query, o, name =>
    match target? env id with
    | none => []
    | some (r, c) =>
      let inner : Occurrence := ⟨c, nestedLabel o.label name⟩
      queryBlocks query inner (tieColumns o.label inner.label r.columnMapping)

end

theorem queryBlocks_eq (q : Query) (o : Occurrence) (tie : List Sql.Column) :
    queryBlocks env q o tie = ⟨o, tie, q.references, true⟩ ::
      (fieldsBlocks env q.fields o ++ optionalConditionBlocks env q.filter o) := by
  cases q
  rfl

end

/-- A SELECT is what a block becomes. It selects from the occurrence, and its joins are those of the
hops of the block, of which repetitions are left out. A level is grouped iff some of these hops may
repeat rows. Each reference becomes a column of the occurrence that its path leads to, and every hop
of every prefix of its path is joined once. -/
structure Block.Becomes (env : Env) (b : Block) (s : Sql.Select) : Prop where
  source : s.source = some b.occurrence.source
  joins : s.joins = ((b.hops env).map Hop.join).eraseDups
  groupBy : s.groupBy =
    if b.isLevel && (b.hops env).any Hop.fansOut then b.occurrence.rowKey else []
  columns : s.ownColumns = b.tie ++ b.references.map (referenceColumn env b.occurrence)
  prefixes : ∀ c ∈ b.references, ∀ p, p <+: c.joinPath →
    hops? env p b.occurrence = some (pathHops env b.occurrence p) ∧
      ∀ h ∈ pathHops env b.occurrence p, s.joins.count h.join = 1

/-- A prefix of a path that can be followed can be followed, and its hops are hops of the path. -/
theorem hops?_of_isPrefix {env : Env} {o : Occurrence} {p path : List RelationshipId}
    (hp : p <+: path) (hpath : hops? env path o = some (pathHops env o path)) :
    hops? env p o = some (pathHops env o p) ∧ pathHops env o p <+: pathHops env o path := by
  obtain ⟨rest, rfl⟩ := hp
  obtain ⟨before, after, hbefore, -, heq⟩ := hops?_append_iff.mp hpath
  have hhops : pathHops env o p = before := by rw [pathHops, hbefore, Option.getD_some]
  rw [hhops, heq]
  exact ⟨hbefore, List.prefix_append before after⟩

/-- Every hop of every prefix of a path is joined once. -/
theorem Block.joins_count {env : Env} {b : Block}
    (hpaths : Followable env b.occurrence (b.references.map ColumnRef.joinPath)) {c : ColumnRef}
    (hc : c ∈ b.references) {p : List RelationshipId} (hp : p <+: c.joinPath) :
    hops? env p b.occurrence = some (pathHops env b.occurrence p) ∧
      ∀ h ∈ pathHops env b.occurrence p,
        ((b.hops env).map Hop.join).eraseDups.count h.join = 1 := by
  obtain ⟨hfollow, hsub⟩ := hops?_of_isPrefix hp (hpaths _ (List.mem_map_of_mem hc))
  refine ⟨hfollow, fun h hh => ?_⟩
  have hmem : h ∈ b.hops env := List.mem_flatMap.mpr ⟨c, hc, hsub.subset hh⟩
  exact List.count_eq_one_of_mem (nodup_eraseDups _)
    (List.mem_eraseDups.mpr (List.mem_map_of_mem hmem))

/-- A SELECT with the joins of the references of a block. -/
theorem Block.becomes_of_joins {env : Env} {b : Block} {s : Sql.Select} {js : Joins}
    (hpaths : Followable env b.occurrence (b.references.map ColumnRef.joinPath))
    (hjs : js = .ofPaths env b.occurrence (b.references.map ColumnRef.joinPath))
    (hsource : s.source = some b.occurrence.source) (hjoins : s.joins = js.list)
    (hgroupBy : s.groupBy = if b.isLevel && js.fansOut then b.occurrence.rowKey else [])
    (hcolumns : s.ownColumns = b.tie ++ b.references.map (referenceColumn env b.occurrence)) :
    b.Becomes env s := by
  have hhops : js = ⟨((b.hops env).map Hop.join).eraseDups, (b.hops env).any Hop.fansOut⟩ := by
    rw [hjs, Joins.ofPaths, List.flatMap_map, insertAll_empty]
    rfl
  rw [hhops] at hjoins hgroupBy
  refine ⟨hsource, hjoins, hgroupBy, hcolumns, ?_⟩
  intro c hc p hp
  rw [hjoins]
  exact Block.joins_count hpaths hc hp

/-! ## Each block has its SELECT -/

theorem tableSelects_columnExpr {env : Env} {o : Occurrence} {c : ColumnRef} {js js' : Joins}
    {e : Sql.Expr} (h : columnExpr env o c js = .ok (e, js')) (around : Sql.Scopes) :
    Sql.Visit.tableSelects (e.visits around) = [] := by
  rw [columnExpr_columns h, Sql.Expr.visits]
  rfl

theorem tableSelects_ties (parent child : String) (mapping : List (String × String))
    (around : Sql.Scopes) :
    Sql.Visit.tableSelects
      (Sql.Expr.visitsOfAll (mapping.map (tieExpr parent child)) around) = [] := by
  induction mapping with
  | nil => rfl
  | cons pair rest ih =>
    rw [List.map_cons, Sql.Expr.visitsOfAll, Sql.Visit.tableSelects_append, ih, tieExpr,
      Sql.Expr.visits, Sql.Expr.visits_col, Sql.Expr.visits_col]
    rfl

theorem conditions_blocks {env : Env} {o : Occurrence} {cs : List Condition}
    (ih : ∀ c ∈ cs, ∀ js e js' around, condition env c o js = .ok (e, js') →
      List.Forall₂ (Block.Becomes env) (conditionBlocks env c o)
        (Sql.Visit.tableSelects (e.visits around)))
    {js js' : Joins} {es : List Sql.Expr} (h : conditions env cs o js = .ok (es, js'))
    (around : Sql.Scopes) :
    List.Forall₂ (Block.Becomes env) (conditionsBlocks env cs o)
      (Sql.Visit.tableSelects (Sql.Expr.visitsOfAll es around)) := by
  induction cs generalizing js es with
  | nil =>
    rw [(conditions_nil_iff.mp h).1]
    exact .nil
  | cons c cs ihcs =>
    obtain ⟨ihc, ihrest⟩ := List.forall_mem_cons.mp ih
    obtain ⟨e, rest, between, he, hrest, rfl⟩ := conditions_cons_iff.mp h
    rw [Sql.Expr.visitsOfAll, Sql.Visit.tableSelects_append, conditionsBlocks]
    exact List.rel_append (ihc _ _ _ around he) (ihcs ihrest hrest)

theorem optionalCondition_blocks {env : Env} {o : Occurrence} {p : Option Condition}
    (ih : ∀ c, p = some c → ∀ js e js' around, condition env c o js = .ok (e, js') →
      List.Forall₂ (Block.Becomes env) (conditionBlocks env c o)
        (Sql.Visit.tableSelects (e.visits around)))
    {js js' : Joins} {es : List Sql.Expr} (h : optionalCondition env p o js = .ok (es, js'))
    (around : Sql.Scopes) :
    List.Forall₂ (Block.Becomes env) (optionalConditionBlocks env p o)
      (Sql.Visit.tableSelects (Sql.Expr.visitsOfAll es around)) := by
  cases p with
  | none =>
    rw [(optionalCondition_none_iff.mp h).1]
    exact .nil
  | some c =>
    obtain ⟨e, he, rfl⟩ := optionalCondition_some_iff.mp h
    rw [Sql.Expr.visitsOfAll, Sql.Expr.visitsOfAll, List.append_nil]
    exact ih c rfl _ _ _ around he

/-- The SELECT of an existence check is what the block of the check becomes. -/
theorem existsSelect_becomes {env : Env} {o : Occurrence} {p : Option Condition} {js : Joins}
    {es : List Sql.Expr} (h : optionalCondition env p o .empty = .ok (es, js))
    (tie : List Sql.Expr) :
    Block.Becomes env ⟨o, Sql.Expr.ownColumnsOfAll tie, Condition.referencesOf? p, false⟩
      (existsSelect o (tie ++ es) js) := by
  obtain ⟨hpaths, hjs⟩ := optionalCondition_joins h
  rw [Condition.pathsOf?_eq] at hpaths hjs
  refine Block.becomes_of_joins hpaths hjs rfl rfl rfl ?_
  rw [Sql.Select.ownColumns, existsSelect, Sql.Expr.ownColumns_andAll,
    Sql.Expr.ownColumnsOfAll_append, optionalCondition_columns h, List.flatMap_nil, List.append_nil]

/-- The SELECT of a level is what the block of the level becomes. -/
theorem rowSelect_becomes {env : Env} {o : Occurrence} {q : Query} {js js' : Joins}
    {conds : List Sql.Expr} {orders : List (Sql.Expr × Direction)}
    (hconds : optionalCondition env q.filter o .empty = .ok (conds, js))
    (horders : orderExprs env o q.orderBy js = .ok (orders, js')) (tie : List Sql.Expr)
    (es : List (String × Sql.Expr)) (limit : Option Sql.Limit) :
    Block.Becomes env ⟨o, Sql.Expr.ownColumnsOfAll tie, q.references, true⟩
      (rowSelect o es (tie ++ conds) orders js' limit) := by
  obtain ⟨hpaths, hjs⟩ := level_joins hconds horders
  rw [Query.paths_eq] at hpaths hjs
  refine Block.becomes_of_joins hpaths hjs rfl rfl rfl ?_
  rw [Sql.Select.ownColumns, rowSelect, Sql.Expr.ownColumns_andAll,
    Sql.Expr.ownColumnsOfAll_append, optionalCondition_columns hconds, orderExprs_columns horders,
    Query.references, List.map_append, List.append_assoc]

/-- The existence checks inside a condition have their SELECTs. -/
theorem condition_blocks {env : Env} (c : Condition) {o : Occurrence} {js js' : Joins}
    {e : Sql.Expr} (h : condition env c o js = .ok (e, js')) (around : Sql.Scopes) :
    List.Forall₂ (Block.Becomes env) (conditionBlocks env c o)
      (Sql.Visit.tableSelects (e.visits around)) := by
  induction c using Condition.induction generalizing o js e js' around with
  | isNull column =>
    obtain ⟨col, hcol, rfl⟩ := condition_isNull_iff.mp h
    rw [Sql.Expr.visits, tableSelects_columnExpr hcol]
    exact .nil
  | compare column op rhs =>
    obtain ⟨known, v, col, -, -, hcol, rfl⟩ := condition_compare_iff.mp h
    rw [Sql.Expr.visits, Sql.Expr.visits, List.append_nil, tableSelects_columnExpr hcol]
    exact .nil
  | and operands ih =>
    obtain ⟨es, hes, rfl⟩ := condition_and_iff.mp h
    rw [Sql.Expr.visits, conditionBlocks]
    exact conditions_blocks (fun c hc _ _ _ around h => ih c hc h around) hes around
  | or operands ih =>
    obtain ⟨es, hes, rfl⟩ := condition_or_iff.mp h
    rw [Sql.Expr.visits, conditionBlocks]
    exact conditions_blocks (fun c hc _ _ _ around h => ih c hc h around) hes around
  | not operand ih =>
    obtain ⟨e', he', rfl⟩ := condition_not_iff.mp h
    rw [Sql.Expr.visits, conditionBlocks]
    exact ih he' around
  | existsIn target predicate ih =>
    obtain ⟨id, r, c, es, inner, rfl, hr, hc, -, hes, rfl, -⟩ := condition_existsIn_iff.mp h
    rw [existsExpr_visits, conditionBlocks, target?_eq_some hr hc]
    have hinner := existsSelect_becomes hes
      (r.columnMapping.map (tieExpr o.label (existsLabel o.label)))
    rw [ties_columns] at hinner
    refine .cons hinner ?_
    -- neither the joins nor the ties hold a SELECT, so what is left are the checks of the predicate
    show List.Forall₂ _ _ (Sql.Visit.tableSelects _)
    rw [Sql.Visit.tableSelects_append, Sql.Join.tableSelects_visits, List.nil_append,
      Sql.Expr.visitsOfAll_append, Sql.Visit.tableSelects_append, tableSelects_ties,
      List.nil_append]
    exact optionalCondition_blocks (fun c hc _ _ _ around h => ih c hc h around) hes _

theorem tableSelects_orders {env : Env} {o : Occurrence} {orders : List Order} {js js' : Joins}
    {es : List (Sql.Expr × Direction)} (h : orderExprs env o orders js = .ok (es, js'))
    (around : Sql.Scopes) :
    Sql.Visit.tableSelects (Sql.Select.visitsOfOrders es around) = [] := by
  induction orders generalizing js es with
  | nil =>
    rw [(orderExprs_nil_iff.mp h).1]
    rfl
  | cons order orders ih =>
    obtain ⟨entry, rest, between, hfirst, hrest, rfl⟩ := orderExprs_cons_iff.mp h
    obtain ⟨c, e, -, he, rfl⟩ := orderExpr_eq_ok_iff.mp hfirst
    rw [Sql.Select.visitsOfOrders, Sql.Visit.tableSelects_append, tableSelects_columnExpr he,
      ih hrest, List.append_nil]

theorem tableSelects_keys (keys : List Sql.Expr) (around : Sql.Scopes) :
    Sql.Visit.tableSelects (keys.map (.key · around)) = [] := by
  induction keys with
  | nil => rfl
  | cons key keys ih => exact ih

theorem entries_blocks {env : Env} {o : Occurrence} {fields : List (String × Statement.Field)}
    (ih : ∀ f ∈ fields, ∀ e around, entry env f.2 o f.1 = .ok e →
      List.Forall₂ (Block.Becomes env) (fieldBlocks env f.2 o f.1)
        (Sql.Visit.tableSelects (e.visits around)))
    {es : List (String × Sql.Expr)} (h : entries env fields o = .ok es) (around : Sql.Scopes) :
    List.Forall₂ (Block.Becomes env) (fieldsBlocks env fields o)
      (Sql.Visit.tableSelects (Sql.Expr.visitsOfEntries es around)) := by
  have hentries := entries_eq_ok_iff.mp h
  clear h
  induction hentries with
  | nil => exact .nil
  | cons hfirst _ ihrest =>
    obtain ⟨ihfirst, ihothers⟩ := List.forall_mem_cons.mp ih
    rw [Sql.Expr.visitsOfEntries, Sql.Visit.tableSelects_append, fieldsBlocks]
    exact List.rel_append (ihfirst _ around hfirst.2) (ihrest ihothers)

/-- The blocks of a level have their SELECTs. -/
theorem level_blocks {env : Env} (q : Query) {o : Occurrence} {tie : List Sql.Expr}
    {single : Bool} {s : Sql.Select}
    (htie : ∀ around, Sql.Visit.tableSelects (Sql.Expr.visitsOfAll tie around) = [])
    (h : level env q o tie single = .ok s) (around : Sql.Scopes) :
    List.Forall₂ (Block.Becomes env) (queryBlocks env q o (Sql.Expr.ownColumnsOfAll tie))
      (Sql.Visit.tableSelects (s.visits around)) := by
  induction q using Query.induction generalizing o tie single s around with
  | step q ih =>
    obtain ⟨-, es, conds, js, orders, js', hes, hconds, horders, rfl⟩ := level_eq_ok_iff.mp h
    have hentry : ∀ f ∈ q.fields, ∀ e around, entry env f.2 o f.1 = .ok e →
        List.Forall₂ (Block.Becomes env) (fieldBlocks env f.2 o f.1)
          (Sql.Visit.tableSelects (e.visits around)) := by
      rintro ⟨name, field⟩ hf e around he
      cases field with
      | column column =>
        obtain ⟨-, rfl⟩ := entry_column_iff.mp he
        rw [Sql.Expr.visits_col]
        exact .nil
      | relationship id inner =>
        obtain ⟨r, c, rows, hr, hc, -, hrows, rfl⟩ := entry_relationship_iff.mp he
        rw [Sql.Expr.visits, Sql.Expr.visits, fieldBlocks, target?_eq_some hr hc]
        have hinner := ih name id inner hf (tableSelects_ties _ _ _) hrows around
        rw [ties_columns] at hinner
        exact hinner
    rw [foldSelect_visits, rowSelect_visits, queryBlocks_eq]
    -- the SELECT that folds the rows selects from no table; the one inside it is that of the block
    refine .cons (rowSelect_becomes hconds horders tie es _) ?_
    show List.Forall₂ _ _ (Sql.Visit.tableSelects _)
    simp only [Sql.Visit.tableSelects_append, Sql.Join.tableSelects_visits, List.append_nil,
      Sql.Expr.visitsOfAll_append, htie, List.nil_append, tableSelects_keys,
      tableSelects_orders horders]
    exact List.rel_append (entries_blocks hentry hes _)
      (optionalCondition_blocks (fun c _ _ _ _ around h => condition_blocks c h around) hconds _)

/-- **Main theorem.** The SELECTs from tables in a compiled statement are what the blocks of the
statement become, one after the other. -/
theorem compile_joins_exact {schema : Schema} {s : Statement} {bindings : VariableSet}
    {t : Sql.Select} (h : compile schema s bindings = .ok t) :
    ∃ root, schema.collections.get? s.collection = some root ∧
      List.Forall₂ (Block.Becomes ⟨schema, s.relationships, bindings, root⟩)
        (queryBlocks ⟨schema, s.relationships, bindings, root⟩ s.query ⟨root, root.name⟩ [])
        t.tableSelects := by
  obtain ⟨root, rows, hroot, hrows, rfl⟩ := compile_eq_ok_iff.mp h
  refine ⟨root, hroot, ?_⟩
  rw [Sql.Select.tableSelects, scalar_visits]
  exact level_blocks s.query (fun _ => rfl) hrows _

theorem map_joins_of_becomes {env : Env} {bs : List Block} {ss : List Sql.Select}
    (h : List.Forall₂ (Block.Becomes env) bs ss) :
    ss.map Sql.Select.joins = bs.map fun b => ((b.hops env).map Hop.join).eraseDups := by
  induction h with
  | nil => rfl
  | cons hfirst _ ih => rw [List.map_cons, List.map_cons, hfirst.joins, ih]

/-- Users of organisations with some names that have an order for an organisation without a name, by
the name of their own organisation, each with their orders for one organisation. -/
def usersByOrg : Statement where
  collection := "users"
  query := {
    fields := [("id", .column "id"), ("orders", .relationship ⟨0⟩ {
      fields := [("id", .column "id")]
      aggregates := []
      filter := some (.compare ⟨"name", [⟨1⟩], .current⟩ (.known .eq) (.value (.string "Acme")))
      orderBy := []
      limit := none
      offset := none })]
    aggregates := []
    filter := some (.and [
      .compare ⟨"name", [⟨1⟩], .current⟩ (.known .like) (.value (.string "A%")),
      .existsIn (.related ⟨0⟩) (some (.isNull ⟨"name", [⟨1⟩], .current⟩))])
    orderBy := [⟨.column ⟨"name", [⟨1⟩], .current⟩, .asc⟩]
    limit := none
    offset := none }
  relationships := ⟨[
    ("orders", ⟨"orders", "orders", [("id", "user_id")], .array⟩),
    ("org", ⟨"org", "orgs", [("org_id", "id")], .object⟩)]⟩
  variableSets := none

/-- The organisation is joined once at each level and once in the existence check. -/
theorem usersByOrg_joins :
    ∃ t, compile shop usersByOrg .empty = .ok t ∧ t.tableSelects.map Sql.Select.joins = [
      [⟨"orgs", "users_org", ⟨"users", "org_id"⟩, ⟨"users_org", "id"⟩⟩],
      [⟨"orgs", "users_orders_org", ⟨"users_orders", "org_id"⟩, ⟨"users_orders_org", "id"⟩⟩],
      [⟨"orgs", "users_exists_org", ⟨"users_exists", "org_id"⟩, ⟨"users_exists_org", "id"⟩⟩]] := by
  obtain ⟨t, ht⟩ : ∃ t, compile shop usersByOrg .empty = .ok t := ⟨_, rfl⟩
  refine ⟨t, ht, ?_⟩
  obtain ⟨root, hroot, hall⟩ := compile_joins_exact ht
  cases hroot
  rw [map_joins_of_becomes hall]
  decide

end CollectionSql.Selection
