import CollectionSql.Proofs.Meaning
import CollectionSql.Proofs.Scoping

/-!
# Compiled statements return what is asked for

Running the SQL that a statement compiles to gives the answer to the statement, for every database.
The proof follows the levels of the statement. Its invariant (`Shows`) says which rows stand under
which labels: the current row under the label of its occurrence, and the root row under the name of
its collection. Labels only grow on the way in, so a nested SELECT keeps the rows around it in view.

Results:
* `Shows.child`: a row of a nested SELECT hides no row that is around it.
* `condition_eval`: a compiled condition has the truth value of the condition.
* `level_eval`: a compiled level returns the answer to its query.
* `compile_correct`: a compiled statement returns the answer to the statement.
-/

namespace CollectionSql.Selection

open Sql (Database Dialect Frame TableRow Truth)
open Statement (ColumnRef Condition Order Query World)

/-! ## Rows in view -/

/-- What a compiled statement is read against. -/
def Env.world (env : Env) (d : Dialect) (db : Database) : World :=
  ⟨d, db, env.relationships, env.bindings⟩

/-- The row of an occurrence and the root row are in view, each under its label. -/
structure Shows (env : Env) (o : Occurrence) (frames : List Frame) (root here : TableRow) :
    Prop where
  own : Frame.row? frames o.label = some here
  root : Frame.row? frames env.root.name = some root
  root_le : env.root.name.length ≤ o.label.length

/-- A row under a longer label comes into view, and the rows in view stay there. -/
theorem Shows.child {env : Env} {o : Occurrence} {frames : List Frame} {root here : TableRow}
    (h : Shows env o frames root here) {c : Collection} {label : String}
    (hlabel : o.label.length < label.length) (row : TableRow) :
    Shows env ⟨c, label⟩ (.ofRow label row :: frames) root row ∧
      Frame.row? (.ofRow label row :: frames) o.label = some here := by
  have hne : ∀ other : String, other.length ≤ o.label.length → label ≠ other := by
    rintro other hle rfl
    omega
  refine ⟨⟨Frame.row?_ofRow_self label row frames, ?_, ?_⟩, ?_⟩
  · rw [Frame.row?_ofRow_of_ne (hne _ h.root_le)]
    exact h.root
  · have := h.root_le
    show env.root.name.length ≤ label.length
    omega
  · rw [Frame.row?_ofRow_of_ne (hne _ (Nat.le_refl _))]
    exact h.own

/-! ## Statements without paths -/

/-- None of the paths has a hop. -/
def NoPaths (paths : List (List RelationshipId)) : Prop := ∀ path ∈ paths, path = []

theorem noPaths_append {ps qs : List (List RelationshipId)} :
    NoPaths (ps ++ qs) ↔ NoPaths ps ∧ NoPaths qs := by
  simp only [NoPaths, List.mem_append, or_imp, forall_and]

theorem insertAll_of_noPaths {env : Env} {o : Occurrence} {paths : List (List RelationshipId)}
    (h : NoPaths paths) (js : Joins) : js.insertAll (paths.flatMap (pathHops env o)) = js := by
  have hnil : paths.flatMap (pathHops env o) = [] := by
    rw [List.flatMap_eq_nil_iff]
    intro path hpath
    rw [h path hpath]
    rfl
  rw [hnil, Joins.insertAll_nil]

/-! ## Conditions -/

section

variable {env : Env} {o : Occurrence} {d : Dialect} {db : Database} {group outer : List Frame}
  {root here : TableRow}

/-- A column reference without a path reads the current row or the root row. -/
theorem columnExpr_eval {c : ColumnRef} {js js' : Joins} {e : Sql.Expr}
    (h : columnExpr env o c js = .ok (e, js')) (hpath : c.joinPath = [])
    (hshows : Shows env o (Frame.seen group outer) root here) :
    e.eval d db group outer = some (.scalar (c.value root here)) := by
  obtain ⟨target, hops, href, -, rfl, -⟩ := columnExpr_eq_ok_iff.mp h
  unfold reference? at href
  unfold ColumnRef.joinPath at hpath
  unfold ColumnRef.value
  cases hscope : c.scope with
  | current =>
    rw [hscope] at href hpath
    rw [show c.path = [] from hpath] at href
    cases href
    exact Sql.Expr.eval_col hshows.own c.name
  | root =>
    rw [hscope] at href
    cases href
    exact Sql.Expr.eval_col hshows.root c.name

theorem read_of_operandValue? {rhs : Statement.Operand} {v : Value}
    (h : operandValue? env.bindings rhs = some v) : rhs.read (env.world d db) root here = v := by
  cases rhs with
  | value _ =>
    cases h
    rfl
  | var name =>
    show (env.bindings.values.get? name).getD .null = v
    rw [show env.bindings.values.get? name = some v from h]
    rfl
  | column _ => cases h

theorem conditions_eval {cs : List Condition}
    (ih : ∀ c ∈ cs, ∀ js e js', condition env c o js = .ok (e, js') → NoPaths c.paths →
      (∀ paths ∈ c.levels, NoPaths paths) →
      e.eval d db group outer = some (.ofTruth (c.truth (env.world d db) root here)))
    {js js' : Joins} {es : List Sql.Expr} (h : conditions env cs o js = .ok (es, js'))
    (hpaths : NoPaths (Condition.pathsOfAll cs))
    (hlevels : ∀ paths ∈ Condition.levelsOfAll cs, NoPaths paths) :
    Sql.Expr.evalTruths d db es group outer =
      some (Condition.truths (env.world d db) cs root here) := by
  induction cs generalizing js es with
  | nil =>
    rw [(conditions_nil_iff.mp h).1]
    rfl
  | cons c cs ihcs =>
    obtain ⟨ihc, ihrest⟩ := List.forall_mem_cons.mp ih
    obtain ⟨e, rest, between, he, hrest, rfl⟩ := conditions_cons_iff.mp h
    obtain ⟨hown, hothers⟩ := noPaths_append.mp hpaths
    obtain ⟨hinner, houter⟩ := List.forall_mem_append.mp hlevels
    rw [Sql.Expr.evalTruths, ihc _ _ _ he hown hinner, ihcs ihrest hrest hothers houter]
    simp [Condition.truths]

/-- The conditions for an absent or present predicate are all true iff it is. -/
theorem optionalCondition_eval {p : Option Condition}
    (ih : ∀ c, p = some c → ∀ js e js', condition env c o js = .ok (e, js') → NoPaths c.paths →
      (∀ paths ∈ c.levels, NoPaths paths) →
      e.eval d db group outer = some (.ofTruth (c.truth (env.world d db) root here)))
    {js js' : Joins} {es : List Sql.Expr} (h : optionalCondition env p o js = .ok (es, js'))
    (hpaths : NoPaths (Condition.pathsOf? p))
    (hlevels : ∀ paths ∈ Condition.levelsOf? p, NoPaths paths) :
    ∃ ts, Sql.Expr.evalTruths d db es group outer = some ts ∧
      ((∀ t ∈ ts, t = .yes) ↔ Condition.truthOf? (env.world d db) p root here = .yes) := by
  cases p with
  | none =>
    rw [(optionalCondition_none_iff.mp h).1]
    exact ⟨[], rfl, by simp [Condition.truthOf?]⟩
  | some c =>
    obtain ⟨e, he, rfl⟩ := optionalCondition_some_iff.mp h
    refine ⟨[c.truth (env.world d db) root here], ?_, by simp [Condition.truthOf?]⟩
    rw [Sql.Expr.evalTruths, ih c rfl _ _ _ he hpaths hlevels]
    simp [Sql.Expr.evalTruths]

end

/-- Whether the pairs of a column mapping are equal in two rows. -/
def isTied (d : Dialect) (mapping : List (String × String)) (parent child : TableRow) : Bool :=
  mapping.all fun pair => d.compare .eq (parent pair.1) (child pair.2) = .yes

theorem related_eq {env : Env} {d : Dialect} {db : Database} {id : RelationshipId}
    {r : Relationship} (hr : env.relationships.get? id = some r) (here : TableRow) :
    (env.world d db).related id here =
      (db r.targetCollection).filter (isTied d r.columnMapping here) := by
  rw [World.related, Env.world, hr]
  rfl

theorem ties_eval {d : Dialect} {db : Database} {group outer : List Frame}
    {parent child : String} {here row : TableRow} (mapping : List (String × String))
    (hparent : Frame.row? (Frame.seen group outer) parent = some here)
    (hchild : Frame.row? (Frame.seen group outer) child = some row) :
    ∃ ts, Sql.Expr.evalTruths d db (mapping.map (tieExpr parent child)) group outer = some ts ∧
      ((∀ t ∈ ts, t = .yes) ↔ isTied d mapping here row = true) := by
  induction mapping with
  | nil => exact ⟨[], rfl, by simp [isTied]⟩
  | cons pair rest ih =>
    obtain ⟨ts, hts, hyes⟩ := ih
    refine ⟨d.compare .eq (here pair.1) (row pair.2) :: ts, ?_, ?_⟩
    · rw [List.map_cons, Sql.Expr.evalTruths, tieExpr, Sql.Expr.eval, Sql.Expr.eval_col hparent,
        Sql.Expr.eval_col hchild, hts]
      simp [Sql.Datum.value]
    · rw [List.forall_mem_cons, hyes]
      simp [isTied]

/-- The filter of a tied SELECT is true iff the row is tied to its parent and satisfies the
predicate. -/
theorem evalFilter_tied {d : Dialect} {db : Database} {group outer : List Frame}
    {tie conds : List Sql.Expr} {tied satisfied : Prop} {keep : Bool}
    (htie : ∃ ts, Sql.Expr.evalTruths d db tie group outer = some ts ∧
      ((∀ t ∈ ts, t = .yes) ↔ tied))
    (hconds : ∃ ts, Sql.Expr.evalTruths d db conds group outer = some ts ∧
      ((∀ t ∈ ts, t = .yes) ↔ satisfied))
    (hkeep : keep = true ↔ tied ∧ satisfied) :
    ∃ t, Sql.Select.evalFilter d db (Sql.Expr.andAll (tie ++ conds)) group outer = some t ∧
      (t = .yes ↔ keep = true) := by
  obtain ⟨ts, hts, hall⟩ := htie
  obtain ⟨ts', hts', hall'⟩ := hconds
  obtain ⟨t, ht, hyes⟩ := Sql.Select.evalFilter_andAll (Sql.Expr.evalTruths_append hts hts')
  exact ⟨t, ht, by rw [hyes, List.forall_mem_append, hall, hall', hkeep]⟩

/-- The rows that a check for existence looks at are those that are tied and satisfy the
predicate. -/
theorem existsSelect_eval {d : Dialect} {db : Database} {o : Occurrence} {conds : List Sql.Expr}
    {outer : List Frame} (keep : TableRow → Bool)
    (hfilter : ∀ row, ∃ t,
      Sql.Select.evalFilter d db (Sql.Expr.andAll conds) [.ofRow o.label row] outer = some t ∧
        (t = .yes ↔ keep row = true)) :
    ∃ rows, (existsSelect o conds .empty).eval d db outer = some rows ∧
      (!rows.isEmpty) = (db o.collection.name).any keep := by
  refine ⟨_, Sql.Select.eval_table keep (fun _ => []) (fun _ => [(none, .scalar (.int 1))]) rfl
    (fun row _ => hfilter row) (fun _ _ => rfl) (fun _ _ => rfl), ?_⟩
  have hempty : ∀ (r : TableRow → TableRow → Prop) [DecidableRel r],
      (((db o.collection.name).filter keep).insertionSort r).isEmpty =
        ((db o.collection.name).filter keep).isEmpty := by
    intro r _
    rw [Bool.eq_iff_iff, List.isEmpty_iff_length_eq_zero, List.isEmpty_iff_length_eq_zero,
      List.length_insertionSort]
  rw [Sql.Limit.window, List.isEmpty_map, hempty, Bool.eq_iff_iff]
  simp

/-- A compiled condition has the truth value of the condition. -/
theorem condition_eval {env : Env} (hs : env.schema.Keyed) (d : Dialect) (db : Database)
    (c : Condition) {o : Occurrence} {js js' : Joins} {e : Sql.Expr}
    (h : condition env c o js = .ok (e, js')) (hpaths : NoPaths c.paths)
    (hlevels : ∀ paths ∈ c.levels, NoPaths paths) {group outer : List Frame} {root here : TableRow}
    (hshows : Shows env o (Frame.seen group outer) root here) :
    e.eval d db group outer = some (.ofTruth (c.truth (env.world d db) root here)) := by
  induction c using Condition.induction generalizing o js e js' group outer here with
  | isNull column =>
    obtain ⟨col, hcol, rfl⟩ := condition_isNull_iff.mp h
    rw [Sql.Expr.eval, columnExpr_eval hcol (hpaths _ List.mem_cons_self) hshows]
    rfl
  | compare column op rhs =>
    obtain ⟨known, v, col, rfl, hv, hcol, rfl⟩ := condition_compare_iff.mp h
    rw [Sql.Expr.eval, columnExpr_eval hcol (hpaths _ List.mem_cons_self) hshows, Sql.Expr.eval,
      Condition.truth, read_of_operandValue? hv]
    rfl
  | and operands ih =>
    obtain ⟨es, hes, rfl⟩ := condition_and_iff.mp h
    rw [Sql.Expr.eval, conditions_eval (fun c hc _ _ _ h hp hl => ih c hc h hp hl hshows) hes
      hpaths hlevels]
    rfl
  | or operands ih =>
    obtain ⟨es, hes, rfl⟩ := condition_or_iff.mp h
    rw [Sql.Expr.eval, conditions_eval (fun c hc _ _ _ h hp hl => ih c hc h hp hl hshows) hes
      hpaths hlevels]
    rfl
  | not operand ih =>
    obtain ⟨e', he', rfl⟩ := condition_not_iff.mp h
    rw [Sql.Expr.eval, ih he' hpaths hlevels hshows, Condition.truth]
    simp
  | existsIn target predicate ih =>
    obtain ⟨id, r, c, es, inner, rfl, hr, hc, -, hes, rfl, -⟩ := condition_existsIn_iff.mp h
    obtain ⟨hnone, hrest⟩ := List.forall_mem_cons.mp hlevels
    have hinner : inner = .empty :=
      (optionalCondition_joins hes).2.trans (insertAll_of_noPaths hnone .empty)
    have hfilter : ∀ row, ∃ t, Sql.Select.evalFilter d db
        (Sql.Expr.andAll (r.columnMapping.map (tieExpr o.label (existsLabel o.label)) ++ es))
        [.ofRow (existsLabel o.label) row] (Frame.seen group outer) = some t ∧
        (t = .yes ↔ (isTied d r.columnMapping here row &&
          (Condition.truthOf? (env.world d db) predicate root row = .yes)) = true) := by
      intro row
      obtain ⟨hchild, hparent⟩ :=
        hshows.child (c := c) (length_lt_existsLabel o.label) row
      exact evalFilter_tied
        (ties_eval r.columnMapping hparent (Frame.row?_ofRow_self _ _ _))
        (optionalCondition_eval (fun d hd _ _ _ h hp hl => ih d hd h hp hl hchild) hes hnone hrest)
        (by simp)
    obtain ⟨rows, hrows, hany⟩ :=
      existsSelect_eval (o := ⟨c, existsLabel o.label⟩) _ hfilter
    rw [hinner, existsExpr_eq, Sql.Expr.eval, hrows, Condition.truth, related_eq hr,
      List.any_filter, ← hs.name_of_get? hc, ← hany]
    rfl

/-! ## Levels -/

theorem orderExprs_eval {env : Env} {o : Occurrence} {d : Dialect} {db : Database}
    {group outer : List Frame} {root here : TableRow} {orders : List Order} {js js' : Joins}
    {es : List (Sql.Expr × Direction)} (h : orderExprs env o orders js = .ok (es, js'))
    (hpaths : NoPaths (orders.flatMap Order.paths))
    (hshows : Shows env o (Frame.seen group outer) root here) :
    Sql.Select.evalOrders d db es group outer = some (Statement.orderKeys orders root here) := by
  induction orders generalizing js es with
  | nil =>
    rw [(orderExprs_nil_iff.mp h).1]
    rfl
  | cons order orders ih =>
    obtain ⟨entry, rest, between, hfirst, hrest, rfl⟩ := orderExprs_cons_iff.mp h
    obtain ⟨c, e, hc, he, rfl⟩ := orderExpr_eq_ok_iff.mp hfirst
    rw [List.flatMap_cons] at hpaths
    obtain ⟨hown, hothers⟩ := noPaths_append.mp hpaths
    have hpath : c.joinPath = [] := hown _ (by rw [Order.paths, hc]; exact List.mem_cons_self)
    have hkeys : Statement.orderKeys (order :: orders) root here =
        c.value root here :: Statement.orderKeys orders root here := by
      simp only [Statement.orderKeys, List.map_cons, hc]
    rw [Sql.Select.evalOrders, columnExpr_eval he hpath hshows, ih hrest hothers, hkeys]
    rfl

theorem orderExprs_directions {env : Env} {o : Occurrence} {orders : List Order} {js js' : Joins}
    {es : List (Sql.Expr × Direction)} (h : orderExprs env o orders js = .ok (es, js')) :
    es.map Prod.snd = orders.map Order.direction := by
  induction orders generalizing js es with
  | nil =>
    rw [(orderExprs_nil_iff.mp h).1]
    rfl
  | cons order orders ih =>
    obtain ⟨entry, rest, between, hfirst, hrest, rfl⟩ := orderExprs_cons_iff.mp h
    obtain ⟨c, e, -, -, rfl⟩ := orderExpr_eq_ok_iff.mp hfirst
    rw [List.map_cons, List.map_cons, ih hrest]

/-- The limit of a level leaves one page. -/
theorem window_levelLimit {α : Type} (limit offset : Option Nat) (single : Bool)
    (rows : List α) :
    Sql.Limit.window (Sql.Limit.of? (levelLimit limit single) offset) rows =
      Statement.page limit offset single rows := by
  cases single <;> cases limit <;> cases offset <;>
    simp [levelLimit, Sql.Limit.of?, Sql.Limit.unbounded, Sql.Limit.window, Statement.page]

/-- Folding rows gives one row with the list of them. -/
theorem foldSelect_eval {d : Dialect} {db : Database} {outer : List Frame} {rows : Sql.Select}
    {items : List Json}
    (h : rows.eval d db outer = some (items.map fun j => [(some rowColumn, .text j)])) :
    (foldSelect rows).eval d db outer =
      some [[(none, .text (.object [(rowsKey, .array items)]))]] := by
  refine Sql.Select.eval_fold (by simp [Sql.Expr.isAggregate, Sql.Expr.anyAggregateEntry]) h ?_
  have hitems : ((items.map fun j => [(some rowColumn, Sql.Datum.text j)]).map Frame.ofTuple).mapM
      (fun f => (Sql.Expr.json (.ident rowColumn)).eval d db [f] outer) =
      some (items.map Sql.Datum.json) := by
    rw [List.map_map, List.mapM_map]
    apply mapM_eq_some_map
    intro j _
    rfl
  rw [Sql.Select.evalProjection, Sql.Expr.eval, Sql.Expr.evalEntries, Sql.Expr.eval, hitems]
  simp [Sql.Expr.evalEntries, Sql.Select.evalProjection, Sql.Datum.toJson, Sql.Datum.handedOn,
    Function.comp_def]

theorem entries_isAggregate {env : Env} {o : Occurrence}
    {fields : List (String × Statement.Field)} {es : List (String × Sql.Expr)}
    (h : entries env fields o = .ok es) : Sql.Expr.anyAggregateEntry es = false := by
  have hentries := entries_eq_ok_iff.mp h
  clear h
  induction hentries with
  | nil => rfl
  | @cons f e _ _ hfirst _ ih =>
    obtain ⟨name, field⟩ := f
    rw [Sql.Expr.anyAggregateEntry, ih, Bool.or_false]
    cases field with
    | column column =>
      rw [(entry_column_iff.mp hfirst.2).2]
      rfl
    | relationship id inner =>
      obtain ⟨_, _, rows, -, -, -, -, he⟩ := entry_relationship_iff.mp hfirst.2
      rw [he, Sql.Expr.isAggregate, Sql.Expr.isAggregate]

theorem entries_eval {env : Env} {o : Occurrence} {d : Dialect} {db : Database}
    {group outer : List Frame} {root here : TableRow} {fields : List (String × Statement.Field)}
    (ih : ∀ f ∈ fields, ∀ e, entry env f.2 o f.1 = .ok e →
      (∀ paths ∈ f.2.levels, NoPaths paths) →
      ∃ a, e.eval d db group outer = some a ∧ a.toJson = f.2.shown (env.world d db) root here)
    {es : List (String × Sql.Expr)} (h : entries env fields o = .ok es)
    (hlevels : ∀ paths ∈ Query.levelsOfFields fields, NoPaths paths) :
    Sql.Expr.evalEntries d db es group outer =
      some (Query.members (env.world d db) fields root here) := by
  have hentries := entries_eq_ok_iff.mp h
  clear h
  induction hentries with
  | nil => rfl
  | @cons f e _ _ hfirst _ ihrest =>
    obtain ⟨name, field⟩ := f
    obtain ⟨ihfirst, ihothers⟩ := List.forall_mem_cons.mp ih
    obtain ⟨hown, hothers⟩ := List.forall_mem_append.mp hlevels
    obtain ⟨a, ha, hshown⟩ := ihfirst _ hfirst.2 hown
    rw [Sql.Expr.evalEntries, ha, ihrest ihothers hothers]
    simp [Query.members, hshown, hfirst.1]

/-- A compiled level returns the answer to its query over the rows of its collection that are tied
to the parent row. -/
theorem level_eval {env : Env} (hs : env.schema.Keyed) (d : Dialect) (db : Database) (q : Query)
    {o : Occurrence} {tie : List Sql.Expr} {single : Bool} {s : Sql.Select}
    (h : level env q o tie single = .ok s) (hlevels : ∀ paths ∈ q.levels, NoPaths paths)
    {outer : List Frame} {rootOf : TableRow → TableRow} {tied : TableRow → Bool}
    (hshows : ∀ row, Shows env o (.ofRow o.label row :: outer) (rootOf row) row)
    (htie : ∀ row, ∃ ts,
      Sql.Expr.evalTruths d db tie [.ofRow o.label row] outer = some ts ∧
        ((∀ t ∈ ts, t = .yes) ↔ tied row = true)) :
    s.eval d db outer = some [[(none, .text (q.answer (env.world d db)
      ((db o.collection.name).filter tied) rootOf single))]] := by
  induction q using Query.induction generalizing o tie single s outer rootOf tied with
  | step q ih =>
    obtain ⟨-, es, conds, js, orders, js', hes, hconds, horders, rfl⟩ := level_eq_ok_iff.mp h
    rw [Query.levels_eq] at hlevels
    obtain ⟨hpaths, hinner⟩ := List.forall_mem_cons.mp hlevels
    obtain ⟨hfilterLevels, hfieldLevels⟩ := List.forall_mem_append.mp hinner
    obtain ⟨hfilterPaths, horderPaths⟩ := noPaths_append.mp hpaths
    have hjs : js' = .empty := by
      rw [(level_joins hconds horders).2, Joins.ofPaths, insertAll_of_noPaths hpaths]
    have hentry : ∀ row, ∀ f ∈ q.fields, ∀ e, entry env f.2 o f.1 = .ok e →
        (∀ paths ∈ f.2.levels, NoPaths paths) →
        ∃ a, e.eval d db [.ofRow o.label row] outer = some a ∧
          a.toJson = f.2.shown (env.world d db) (rootOf row) row := by
      rintro row ⟨name, field⟩ hf e he hfield
      cases field with
      | column column =>
        rw [(entry_column_iff.mp he).2]
        have hown : Frame.row? (Frame.seen [.ofRow o.label row] outer) o.label = some row :=
          (hshows row).own
        exact ⟨_, Sql.Expr.eval_col hown column, rfl⟩
      | relationship id inner =>
        obtain ⟨r, c, rows, hr, hc, -, hrows, rfl⟩ := entry_relationship_iff.mp he
        have hnested := ih name id inner hf hrows hfield
          (fun row' => ((hshows row).child (length_lt_nestedLabel o.label name) row').1)
          (fun row' => ties_eval r.columnMapping
            ((hshows row).child (c := c) (length_lt_nestedLabel o.label name) row').2
            (Frame.row?_ofRow_self _ _ _))
        refine ⟨.json (inner.answer (env.world d db) ((env.world d db).related id row)
          (fun _ => rootOf row) ((env.world d db).isSingle id)), ?_, rfl⟩
        rw [Sql.Expr.eval, Sql.Expr.eval, Frame.seen_singleton, hnested, related_eq hr,
          ← hs.name_of_get? hc, World.isSingle, Env.world, hr]
        rfl
    have hfilter : ∀ row, ∃ t,
        Sql.Select.evalFilter d db (Sql.Expr.andAll (tie ++ conds)) [.ofRow o.label row] outer =
          some t ∧ (t = .yes ↔ (Condition.truthOf? (env.world d db) q.filter (rootOf row) row =
            .yes && tied row) = true) := by
      intro row
      exact evalFilter_tied (htie row)
        (optionalCondition_eval
          (fun c _ _ _ _ h hp hl => condition_eval hs d db c h hp hl (hshows row)) hconds
          hfilterPaths hfilterLevels)
        (by simp [and_comm])
    have htuple : ∀ row, Sql.Select.evalProjection d db [(.jsonObject es, some rowColumn)]
        [.ofRow o.label row] outer = some [(some rowColumn,
          .text (.object (Query.members (env.world d db) q.fields (rootOf row) row)))] := by
      intro row
      rw [Sql.Select.evalProjection, Sql.Expr.eval, entries_eval (hentry row) hes hfieldLevels]
      rfl
    have hrows : (rowSelect o es (tie ++ conds) orders .empty
        (Sql.Limit.of? (levelLimit q.limit single) q.offset)).eval d db outer = some _ :=
      Sql.Select.eval_table _ _ _ (by simp [Sql.Expr.isAggregate, entries_isAggregate hes])
        (fun row _ => hfilter row)
        (fun row _ => orderExprs_eval horders horderPaths (hshows row))
        (fun row _ => htuple row)
    rw [hjs, Statement.Query.answer_eq, List.filter_filter]
    apply foldSelect_eval
    rw [← window_levelLimit, List.map_map, ← orderExprs_directions horders]
    exact hrows

/-- **Main theorem.** A compiled statement without paths returns, from every database, one row with
one column that holds the answer to the statement. -/
theorem compile_correct {doc : Document} {schema : Schema} {s : Statement} {bindings : VariableSet}
    {t : Sql.Select} (hschema : Schema.ofDocument doc = .ok schema) (hfree : s.PathFree)
    (h : compile schema s bindings = .ok t) (d : Dialect) (db : Database) :
    t.eval d db [] = some [[(some "data", .text (s.answer d db bindings))]] := by
  have hs := (Schema.consistent_of_ofDocument hschema).toKeyed
  obtain ⟨root, rows, hroot, hrows, rfl⟩ := compile_eq_ok_iff.mp h
  have hshows : ∀ row, Shows ⟨schema, s.relationships, bindings, root⟩ ⟨root, root.name⟩
      (.ofRow root.name row :: [⟨[], []⟩]) (id row) row :=
    fun row => ⟨Frame.row?_ofRow_self _ _ _, Frame.row?_ofRow_self _ _ _, Nat.le_refl _⟩
  have htie : ∀ row, ∃ ts, Sql.Expr.evalTruths d db [] [.ofRow root.name row] [⟨[], []⟩] = some ts ∧
      ((∀ t ∈ ts, t = .yes) ↔ true = true) :=
    fun row => ⟨[], rfl, by simp⟩
  have hlevel := level_eval hs d db s.query hrows hfree hshows htie
  rw [List.filter_true, hs.name_of_get? hroot] at hlevel
  have hvalue : (Sql.Expr.subquery rows).eval d db [⟨[], []⟩] [] =
      some (.text (s.answer d db bindings)) := by
    rw [Sql.Expr.eval, Frame.seen_singleton, hlevel]
    rfl
  exact Sql.Select.eval_scalar rfl hvalue

/-! ## A small database -/

/-- Where a value stands: null comes before the whole numbers, and everything else after them. -/
def rank : Value → Int
  | .null => Value.minInt - 1
  | .bool b => b.toInt
  | .int n => n
  | .float _ => Value.maxInt + 1
  | .string _ => Value.maxInt + 1

/-- A dialect for whole numbers of 64 bits. Patterns stand for themselves. -/
def plainDialect : Dialect where
  holds
    | .eq, a, b => a = b
    | .ne, a, b => a ≠ b
    | .like, a, b => a = b
    | .glob, a, b => a = b
    | .lt, a, b => rank a < rank b
    | .gt, a, b => rank b < rank a
    | .le, a, b => rank a ≤ rank b
    | .ge, a, b => rank b ≤ rank a
  le a b := rank a ≤ rank b
  le_total a b := by simpa using Int.le_total (rank a) (rank b)
  le_trans a b c := by simpa using Int.le_trans

/-- A row with the given values, and null for every other column. -/
def rowOf (entries : Dict Value) : TableRow := fun column => (entries.get? column).getD .null

/-- Three users of the shop and their orders. The second user has no organisation. -/
def shopRows : Database
  | "users" => [rowOf [("id", .int 1), ("org_id", .int 7)], rowOf [("id", .int 2)],
    rowOf [("id", .int 3), ("org_id", .int 7)]]
  | "orders" => [rowOf [("id", .int 10), ("user_id", .int 1)],
    rowOf [("id", .int 11), ("user_id", .int 1)], rowOf [("id", .int 12), ("user_id", .int 2)],
    rowOf [("id", .int 13), ("user_id", .int 3)]]
  | _ => []

/-- Users of an organisation that have orders, the last first, each with the latest order. -/
def latestOrders : Statement where
  collection := "users"
  query := {
    fields := [("id", .column "id"), ("orders", .relationship ⟨0⟩ {
      fields := [("id", .column "id")]
      aggregates := []
      filter := none
      orderBy := [⟨.column (.current "id"), .desc⟩]
      limit := some 1
      offset := none })]
    aggregates := []
    filter := some (.existsIn (.related ⟨0⟩) (some (.not (.isNull (.root "org_id")))))
    orderBy := [⟨.column (.current "id"), .desc⟩]
    limit := none
    offset := none }
  relationships := ⟨[("orders", ⟨"orders", "orders", [("id", "user_id")], .array⟩)]⟩
  variableSets := none

theorem latestOrders_eval :
    ∃ t, compile shop latestOrders .empty = .ok t ∧
      t.eval plainDialect shopRows [] = some [[(some "data", .text (.object [("rows", .array [
        .object [("id", .number (.integer 3)), ("orders", .object [("rows", .array [
          .object [("id", .number (.integer 13))]])])],
        .object [("id", .number (.integer 1)), ("orders", .object [("rows", .array [
          .object [("id", .number (.integer 11))]])])]])]))]] := by
  obtain ⟨t, ht⟩ : ∃ t, compile shop latestOrders .empty = .ok t := ⟨_, rfl⟩
  refine ⟨t, ht, ?_⟩
  rw [compile_correct ofDocument_shopDocument (by decide) ht plainDialect shopRows]
  rfl

end CollectionSql.Selection
