import CollectionSql.Proofs.Compilation
import CollectionSql.Proofs.Induction

/-!
# The joins of a level

The joins of a selection level come from the paths of the column references that its filter and its
ordering make from the level's own row, read from left to right. References inside an existence
check belong to that check. Joins are kept in the order of first use, and an identical join is kept
once.

Results:
* `condition_joins`, `orderExprs_joins`, `level_joins`: the joins after compiling are those there
  before, with the hops of the paths added in order.
* `mem_insertAll`, `nodup_insertAll`: what a list of joins holds after hops are added to it.
* `mem_hops_iff`: the hops of a path are the last hops of its prefixes.
-/

namespace CollectionSql.Statement

/-- The path whose joins a reference needs. Root columns need none, whatever their path. -/
def ColumnRef.joinPath (c : ColumnRef) : List RelationshipId :=
  match c.scope with
  | .current => c.path
  | .root => []

mutual

/-- The paths of the references that a condition makes from its own row, from left to right. -/
def Condition.paths : Condition → List (List RelationshipId)
  | .isNull column => [column.joinPath]
  | .compare column _ _ => [column.joinPath]
  | .and operands => Condition.pathsOfAll operands
  | .or operands => Condition.pathsOfAll operands
  | .not operand => operand.paths
  | .existsIn _ _ => []

/-- The paths of a list of conditions. -/
def Condition.pathsOfAll : List Condition → List (List RelationshipId)
  | [] => []
  | c :: cs => c.paths ++ Condition.pathsOfAll cs

end

/-- The paths of a condition that may be absent. -/
def Condition.pathsOf? : Option Condition → List (List RelationshipId)
  | none => []
  | some c => c.paths

/-- The paths of a criterion of an ordering. -/
def Order.paths (order : Order) : List (List RelationshipId) :=
  match order.target with
  | .column c => [c.joinPath]
  | _ => []

/-- The paths of the references that a query makes from its own rows: those of its filter, then
those of its ordering. -/
def Query.paths (q : Query) : List (List RelationshipId) :=
  Condition.pathsOf? q.filter ++ q.orderBy.flatMap Order.paths

end CollectionSql.Statement

namespace CollectionSql.Selection

open Statement (ColumnRef Condition Order Query)

/-! ## Adding hops to joins -/

theorem mem_insert_list {js : Joins} {j k : Sql.Join} {fansOut : Bool} :
    k ∈ (js.insert j fansOut).list ↔ k ∈ js.list ∨ k = j := by
  unfold Joins.insert
  by_cases h : j ∈ js.list
  · rw [if_pos h]
    constructor
    · exact .inl
    · rintro (hk | rfl)
      · exact hk
      · exact h
  · rw [if_neg h]
    simp

theorem nodup_insert_list {js : Joins} (hjs : js.list.Nodup) (j : Sql.Join) (fansOut : Bool) :
    (js.insert j fansOut).list.Nodup := by
  unfold Joins.insert
  by_cases h : j ∈ js.list
  · rw [if_pos h]
    exact hjs
  · rw [if_neg h, List.nodup_append]
    refine ⟨hjs, List.nodup_singleton j, fun a ha b hb => ?_⟩
    rw [List.mem_singleton.mp hb]
    rintro rfl
    exact h ha

theorem mem_insertAll {js : Joins} {hs : List Hop} {j : Sql.Join} :
    j ∈ (js.insertAll hs).list ↔ j ∈ js.list ∨ ∃ h ∈ hs, j = h.join := by
  induction hs generalizing js with
  | nil => simp
  | cons h hs ih => simp [ih, mem_insert_list, or_assoc]

theorem nodup_insertAll {js : Joins} (hjs : js.list.Nodup) (hs : List Hop) :
    (js.insertAll hs).list.Nodup := by
  induction hs generalizing js with
  | nil => exact hjs
  | cons h hs ih => exact ih (nodup_insert_list hjs h.join h.fansOut)

/-! ## The hops of a path -/

/-- A path in two parts makes the hops of the second from where the first leads. -/
theorem hops?_append_iff {env : Env} {p q : List RelationshipId} {o : Occurrence}
    {hs : List Hop} :
    hops? env (p ++ q) o = some hs ↔ ∃ before rest, hops? env p o = some before ∧
      hops? env q (reached o before) = some rest ∧ hs = before ++ rest := by
  induction p generalizing o hs with
  | nil => simp [hops?]
  | cons id ids ih =>
    simp only [List.cons_append, hops?_cons_iff, ih]
    constructor
    · rintro ⟨h, _, hh, ⟨before, rest, hbefore, hrest, rfl⟩, rfl⟩
      exact ⟨h :: before, rest, ⟨h, before, hh, hbefore, rfl⟩, hrest, rfl⟩
    · rintro ⟨_, rest, ⟨h, before, hh, hbefore, rfl⟩, hrest, rfl⟩
      exact ⟨h, before ++ rest, hh, ⟨before, rest, hbefore, hrest, rfl⟩, rfl⟩

theorem hops?_concat {env : Env} {p : List RelationshipId} {id : RelationshipId} {o : Occurrence}
    {hs : List Hop} (h : hops? env (p ++ [id]) o = some hs) :
    ∃ before last, hops? env p o = some before ∧ hop? env (reached o before) id = some last := by
  obtain ⟨before, _, hbefore, hrest, -⟩ := hops?_append_iff.mp h
  obtain ⟨last, _, hlast, -, -⟩ := hops?_cons_iff.mp hrest
  exact ⟨before, last, hbefore, hlast⟩

/-- A hop belongs to a path iff it is the last one of some prefix. -/
theorem mem_hops_iff {env : Env} {p : List RelationshipId} {o : Occurrence} {hs : List Hop}
    (h : hops? env p o = some hs) {k : Hop} :
    k ∈ hs ↔ ∃ q id before, q ++ [id] <+: p ∧ hops? env q o = some before ∧
      hop? env (reached o before) id = some k := by
  induction p generalizing o hs with
  | nil =>
    cases h
    simp
  | cons id ids ih =>
    obtain ⟨first, rest, hfirst, hrest, rfl⟩ := hops?_cons_iff.mp h
    rw [List.mem_cons, ih hrest]
    constructor
    · rintro (rfl | ⟨q, id', before, hq, hbefore, hk⟩)
      · exact ⟨[], id, [], by simp, rfl, hfirst⟩
      · refine ⟨id :: q, id', first :: before, ?_, ?_, hk⟩
        · simpa using hq
        · exact hops?_cons_iff.mpr ⟨first, before, hfirst, hbefore, rfl⟩
    · rintro ⟨q, id', before, hq, hbefore, hk⟩
      cases q with
      | nil =>
        cases hbefore
        obtain ⟨rfl, -⟩ := List.cons_prefix_cons.mp hq
        exact .inl (Option.some.inj (hk.symm.trans hfirst))
      | cons id'' q =>
        obtain ⟨rfl, hq'⟩ := List.cons_prefix_cons.mp hq
        obtain ⟨first', before', hfirst', hbefore', rfl⟩ := hops?_cons_iff.mp hbefore
        rw [hfirst] at hfirst'
        cases hfirst'
        exact .inr ⟨q, id', before', hq', hbefore', hk⟩

/-! ## The joins that compiling adds -/

/-- The hops of a path, none if it cannot be followed. -/
def pathHops (env : Env) (o : Occurrence) (path : List RelationshipId) : List Hop :=
  (hops? env path o).getD []

/-- The joins of the paths of a level, in order. -/
def Joins.ofPaths (env : Env) (o : Occurrence) (paths : List (List RelationshipId)) : Joins :=
  Joins.empty.insertAll (paths.flatMap (pathHops env o))

/-- Whether every path of a list can be followed from an occurrence. -/
def Followable (env : Env) (o : Occurrence) (paths : List (List RelationshipId)) : Prop :=
  ∀ p ∈ paths, hops? env p o = some (pathHops env o p)

theorem followable_append {env : Env} {o : Occurrence} {ps qs : List (List RelationshipId)}
    (hp : Followable env o ps) (hq : Followable env o qs) : Followable env o (ps ++ qs) := by
  intro p h
  rcases List.mem_append.mp h with h | h
  · exact hp p h
  · exact hq p h

theorem columnExpr_joins {env : Env} {o : Occurrence} {c : ColumnRef} {js js' : Joins}
    {e : Sql.Expr} (h : columnExpr env o c js = .ok (e, js')) :
    Followable env o [c.joinPath] ∧ js' = js.insertAll (pathHops env o c.joinPath) := by
  obtain ⟨target, hs, href, -, -, rfl⟩ := columnExpr_eq_ok_iff.mp h
  have hpath : hops? env c.joinPath o = some hs := by
    unfold reference? at href
    unfold ColumnRef.joinPath
    cases hscope : c.scope with
    | current =>
      rw [hscope] at href
      obtain ⟨hs', hhs, heq⟩ := Option.map_eq_some_iff.mp href
      obtain ⟨-, rfl⟩ := Prod.mk.inj heq
      exact hhs
    | root =>
      rw [hscope] at href
      cases href
      rfl
  have hhops : pathHops env o c.joinPath = hs := by rw [pathHops, hpath]; rfl
  rw [hhops]
  refine ⟨?_, rfl⟩
  intro p hp
  rw [List.mem_singleton.mp hp, hpath, hhops]

theorem conditions_joins {env : Env} {o : Occurrence} {cs : List Condition}
    (ih : ∀ c ∈ cs, ∀ js e js', condition env c o js = .ok (e, js') →
      Followable env o c.paths ∧ js' = js.insertAll (c.paths.flatMap (pathHops env o)))
    {js js' : Joins} {es : List Sql.Expr} (h : conditions env cs o js = .ok (es, js')) :
    Followable env o (Condition.pathsOfAll cs) ∧
      js' = js.insertAll ((Condition.pathsOfAll cs).flatMap (pathHops env o)) := by
  induction cs generalizing js es with
  | nil =>
    rw [(conditions_nil_iff.mp h).2]
    exact ⟨fun p hp => absurd hp List.not_mem_nil, rfl⟩
  | cons c cs ihcs =>
    obtain ⟨ihc, ihrest⟩ := List.forall_mem_cons.mp ih
    obtain ⟨e, rest, between, he, hrest, rfl⟩ := conditions_cons_iff.mp h
    obtain ⟨hfirst, rfl⟩ := ihc _ _ _ he
    obtain ⟨hlast, rfl⟩ := ihcs ihrest hrest
    refine ⟨followable_append hfirst hlast, ?_⟩
    rw [Condition.pathsOfAll, List.flatMap_append, Joins.insertAll_append]

/-- A condition adds the hops of its own paths, in order. -/
theorem condition_joins {env : Env} (c : Condition) {o : Occurrence} {js js' : Joins}
    {e : Sql.Expr} (h : condition env c o js = .ok (e, js')) :
    Followable env o c.paths ∧ js' = js.insertAll (c.paths.flatMap (pathHops env o)) := by
  induction c using Condition.induction generalizing js e js' with
  | isNull column =>
    obtain ⟨col, hcol, -⟩ := condition_isNull_iff.mp h
    simpa [Condition.paths] using columnExpr_joins hcol
  | compare column op rhs =>
    obtain ⟨_, _, col, -, -, hcol, -⟩ := condition_compare_iff.mp h
    simpa [Condition.paths] using columnExpr_joins hcol
  | and operands ih =>
    obtain ⟨es, hes, -⟩ := condition_and_iff.mp h
    exact conditions_joins (fun c hc _ _ _ => ih c hc) hes
  | or operands ih =>
    obtain ⟨es, hes, -⟩ := condition_or_iff.mp h
    exact conditions_joins (fun c hc _ _ _ => ih c hc) hes
  | not operand ih =>
    obtain ⟨e', he', -⟩ := condition_not_iff.mp h
    exact ih he'
  | existsIn target predicate _ =>
    obtain ⟨_, _, _, _, _, -, -, -, -, -, -, rfl⟩ := condition_existsIn_iff.mp h
    exact ⟨fun p hp => absurd hp List.not_mem_nil, rfl⟩

theorem optionalCondition_joins {env : Env} {o : Occurrence} {p : Option Condition}
    {js js' : Joins} {es : List Sql.Expr} (h : optionalCondition env p o js = .ok (es, js')) :
    Followable env o (Condition.pathsOf? p) ∧
      js' = js.insertAll ((Condition.pathsOf? p).flatMap (pathHops env o)) := by
  cases p with
  | none =>
    rw [(optionalCondition_none_iff.mp h).2]
    exact ⟨fun p hp => absurd hp List.not_mem_nil, rfl⟩
  | some c =>
    obtain ⟨e, he, -⟩ := optionalCondition_some_iff.mp h
    exact condition_joins c he

theorem orderExprs_joins {env : Env} {o : Occurrence} {orders : List Order} {js js' : Joins}
    {es : List (Sql.Expr × Direction)} (h : orderExprs env o orders js = .ok (es, js')) :
    Followable env o (orders.flatMap Order.paths) ∧
      js' = js.insertAll ((orders.flatMap Order.paths).flatMap (pathHops env o)) := by
  induction orders generalizing js es with
  | nil =>
    rw [(orderExprs_nil_iff.mp h).2]
    exact ⟨fun p hp => absurd hp List.not_mem_nil, rfl⟩
  | cons order orders ih =>
    obtain ⟨entry, rest, between, he, hrest, rfl⟩ := orderExprs_cons_iff.mp h
    obtain ⟨c, e, hc, he, -⟩ := orderExpr_eq_ok_iff.mp he
    obtain ⟨hfirst, rfl⟩ := columnExpr_joins he
    obtain ⟨hlast, rfl⟩ := ih hrest
    have hpaths : order.paths = [c.joinPath] := by rw [Order.paths, hc]
    rw [List.flatMap_cons, hpaths]
    refine ⟨followable_append hfirst hlast, ?_⟩
    rw [List.flatMap_append, Joins.insertAll_append, List.flatMap_singleton]

/-- The joins of a level are those of the hops of its paths. -/
theorem level_joins {env : Env} {o : Occurrence} {q : Query} {conds : List Sql.Expr}
    {orders : List (Sql.Expr × Direction)} {js js' : Joins}
    (hconds : optionalCondition env q.filter o .empty = .ok (conds, js))
    (horders : orderExprs env o q.orderBy js = .ok (orders, js')) :
    Followable env o q.paths ∧ js' = .ofPaths env o q.paths := by
  obtain ⟨hfilter, rfl⟩ := optionalCondition_joins hconds
  obtain ⟨horder, rfl⟩ := orderExprs_joins horders
  refine ⟨followable_append hfilter horder, ?_⟩
  rw [Joins.ofPaths, Query.paths, List.flatMap_append, Joins.insertAll_append]

end CollectionSql.Selection
