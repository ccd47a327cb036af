import CollectionSql.Proofs.Schemas
import CollectionSql.Selection.Level

/-!
# What a successful compilation looks like

Compilation is a chain of lookups that may fail, and it threads the joins that column paths need.
For each of its functions there is one lemma here that says when the function succeeds and what it
then returns. Later proofs cite these lemmas and never open the functions again.

A path contributes a list of hops that does not depend on the joins found before it (`hops?`), so
a column reference always means the same occurrence, and only its joins are added to those
already there.

Results:
* `followPath_eq_ok_iff`, `columnExpr_eq_ok_iff`: paths and column references.
* `correlation_eq_ok_iff`: the conditions that tie a child to its parent.
* `condition_isNull_iff` to `condition_existsIn_iff`: one lemma for each kind of condition.
* `level_eq_ok_iff`, `entry_column_iff`, `entry_relationship_iff`, `compile_eq_ok_iff`: levels.
-/

namespace CollectionSql

theorem Relationships.get_eq_ok_iff {t : Relationships} {id : RelationshipId} {r : Relationship} :
    t.get id = .ok r ↔ t.get? id = some r := by
  rw [get]
  cases t.get? id <;> simp

theorem VariableSet.get_eq_ok_iff {s : VariableSet} {name : String} {v : Value} :
    s.get name = .ok v ↔ s.values.get? name = some v := by
  rw [get]
  cases s.values.get? name <;> simp

namespace Selection

open Statement (ColumnRef Condition Operand Order Query)

/-! ## Keys of hops -/

/-- The keys between two collections of a schema are the foreign keys that one has to the other. -/
theorem mem_hopKeys_iff {schema : Schema} (hs : schema.Keyed) {c target : Collection}
    (htarget : target ∈ schema.collections.values) {key : HopKey} :
    key ∈ hopKeys schema c target ↔
      (∃ k ∈ c.foreignKeys, k.2.collection = target.name ∧ key = .forward k.1 k.2) ∨
        ∃ k ∈ target.foreignKeys, k.2.collection = c.name ∧ key = .reverse k.1 k.2 := by
  simp only [hopKeys, List.mem_append, List.mem_map, List.mem_filter, Collection.foreignKeysTo,
    Schema.foreignKeysTargeting, List.mem_flatMap, decide_eq_true_eq]
  constructor
  · rintro (⟨k, ⟨hk, hto⟩, rfl⟩ | ⟨_, ⟨⟨owner, howner, k, ⟨hk, hto⟩, rfl⟩, hname⟩, rfl⟩)
    · exact .inl ⟨k, hk, hto, rfl⟩
    · -- the owner of a reverse key has the name of the target, so it is the target
      have heq : owner = target := by
        have h1 := hs.get?_name howner
        have h2 := hs.get?_name htarget
        rw [show owner.name = target.name from hname, h2] at h1
        exact (Option.some.inj h1).symm
      subst heq
      exact .inr ⟨k, hk, hto, rfl⟩
  · rintro (⟨k, hk, hto, rfl⟩ | ⟨k, hk, hto, rfl⟩)
    · exact .inl ⟨k, ⟨hk, hto⟩, rfl⟩
    · exact .inr ⟨(target, k), ⟨⟨target, htarget, k, ⟨hk, hto⟩, rfl⟩, rfl⟩, rfl⟩

theorem mem_hopKeys_of_chooseKey {schema : Schema} {r : Relationship} {c target : Collection}
    {key : HopKey} (h : chooseKey schema r c target = some key) :
    key ∈ hopKeys schema c target := by
  unfold chooseKey at h
  rcases Option.or_eq_some_iff.mp h with h | ⟨-, h⟩
  · exact List.mem_of_find?_eq_some h
  · exact List.mem_of_head? h

/-! ## Paths -/

/-- One hop of a path: the occurrence that it leads to, its join, and whether it may repeat
rows. -/
structure Hop where
  target : Occurrence
  join : Sql.Join
  fansOut : Bool

/-- The hop from an occurrence to a collection that is joined on a key. -/
def Hop.over (o : Occurrence) (r : Relationship) (target : Collection) (key : HopKey) : Hop :=
  let label := joinLabel o.label r.name
  let columns := key.columns o.label label
  ⟨⟨target, label⟩, ⟨target.name, label, columns.1, columns.2⟩,
    key.isReverse || r.cardinality == .array⟩

/-- The hop that a relationship makes from an occurrence, if the schema has a key for it. -/
def hop? (env : Env) (o : Occurrence) (id : RelationshipId) : Option Hop := do
  let r ← env.relationships.get? id
  let target ← env.schema.collections.get? r.targetCollection
  let key ← chooseKey env.schema r o.collection target
  return .over o r target key

/-- The hops of a path from an occurrence. -/
def hops? (env : Env) : List RelationshipId → Occurrence → Option (List Hop)
  | [], _ => some []
  | id :: ids, o => do
    let h ← hop? env o id
    let hs ← hops? env ids h.target
    return h :: hs

/-- The occurrence that hops lead to. -/
def reached (o : Occurrence) (hs : List Hop) : Occurrence := hs.foldl (fun _ h => h.target) o

/-- Adds the joins of hops, one after the other. -/
def Joins.insertAll (js : Joins) (hs : List Hop) : Joins :=
  hs.foldl (fun js h => js.insert h.join h.fansOut) js

@[simp] theorem reached_nil (o : Occurrence) : reached o [] = o := rfl

@[simp] theorem reached_cons (o : Occurrence) (h : Hop) (hs : List Hop) :
    reached o (h :: hs) = reached h.target hs := rfl

@[simp] theorem Joins.insertAll_nil (js : Joins) : js.insertAll [] = js := rfl

@[simp] theorem Joins.insertAll_cons (js : Joins) (h : Hop) (hs : List Hop) :
    js.insertAll (h :: hs) = (js.insert h.join h.fansOut).insertAll hs := rfl

@[simp] theorem Joins.insertAll_append (js : Joins) (hs hs' : List Hop) :
    js.insertAll (hs ++ hs') = (js.insertAll hs).insertAll hs' := List.foldl_append

theorem hops?_cons_iff {env : Env} {id : RelationshipId} {ids : List RelationshipId}
    {o : Occurrence} {hs : List Hop} :
    hops? env (id :: ids) o = some hs ↔
      ∃ h rest, hop? env o id = some h ∧ hops? env ids h.target = some rest ∧ hs = h :: rest := by
  simp only [hops?, Option.bind_eq_bind, Option.bind_eq_some_iff, Option.pure_def,
    Option.some.injEq]
  constructor
  · rintro ⟨h, hh, rest, hrest, rfl⟩
    exact ⟨h, rest, hh, hrest, rfl⟩
  · rintro ⟨h, rest, hh, hrest, rfl⟩
    exact ⟨h, hh, rest, hrest, rfl⟩

theorem hop?_eq_some_iff {env : Env} {o : Occurrence} {id : RelationshipId} {h : Hop} :
    hop? env o id = some h ↔ ∃ r target key, env.relationships.get? id = some r ∧
      env.schema.collections.get? r.targetCollection = some target ∧
      chooseKey env.schema r o.collection target = some key ∧ h = .over o r target key := by
  simp only [hop?, Option.bind_eq_bind, Option.bind_eq_some_iff, Option.pure_def, Option.some.injEq]
  constructor
  · rintro ⟨r, hr, target, htarget, key, hkey, rfl⟩
    exact ⟨r, target, key, hr, htarget, hkey, rfl⟩
  · rintro ⟨r, target, key, hr, htarget, hkey, rfl⟩
    exact ⟨r, hr, target, htarget, key, hkey, rfl⟩

theorem hop_eq_ok_iff {env : Env} {o o' : Occurrence} {id : RelationshipId} {js js' : Joins} :
    hop env o id js = .ok (o', js') ↔
      ∃ h, hop? env o id = some h ∧ o' = h.target ∧ js' = js.insert h.join h.fansOut := by
  simp only [hop, Result.bind_eq_ok, Relationships.get_eq_ok_iff, Schema.collection_eq_ok_iff,
    hop?_eq_some_iff]
  constructor
  · rintro ⟨r, hr, target, htarget, h⟩
    split at h
    · cases h
    · next key hkey =>
      cases h
      exact ⟨_, ⟨r, target, key, hr, htarget, hkey, rfl⟩, rfl, rfl⟩
  · rintro ⟨_, ⟨r, target, key, hr, htarget, hkey, rfl⟩, rfl, rfl⟩
    refine ⟨r, hr, target, htarget, ?_⟩
    rw [hkey]
    rfl

/-- A path succeeds if each of its hops does. It leads where the last hop leads, and it adds the
joins of the hops in order. -/
theorem followPath_eq_ok_iff {env : Env} {path : List RelationshipId} {o o' : Occurrence}
    {js js' : Joins} :
    followPath env path o js = .ok (o', js') ↔
      ∃ hs, hops? env path o = some hs ∧ o' = reached o hs ∧ js' = js.insertAll hs := by
  induction path generalizing o js with
  | nil =>
    simp only [followPath, hops?, Except.ok.injEq, Prod.mk.injEq, Option.some.injEq,
      exists_eq_left', reached_nil, Joins.insertAll_nil]
    constructor <;> rintro ⟨rfl, rfl⟩ <;> exact ⟨rfl, rfl⟩
  | cons id ids ih =>
    simp only [followPath, Result.bind_eq_ok, Prod.exists, hop_eq_ok_iff, ih, hops?_cons_iff]
    constructor
    · rintro ⟨_, _, ⟨h, hh, rfl, rfl⟩, hs, hhs, ho, hjs⟩
      exact ⟨h :: hs, ⟨h, hs, hh, hhs, rfl⟩, ho, hjs⟩
    · rintro ⟨_, ⟨h, hs, hh, hhs, rfl⟩, ho, hjs⟩
      exact ⟨_, _, ⟨h, hh, rfl, rfl⟩, hs, hhs, ho, hjs⟩

/-! ## Columns and ties -/

theorem column_eq_ok_iff {o : Occurrence} {name : String} {c : Sql.Column} :
    o.column name = .ok c ↔ name ∈ o.collection.fieldNames ∧ c = ⟨o.label, name⟩ := by
  simp only [Occurrence.column, Result.bind_eq_ok, Result.pure_eq_ok, ← Collection.field_eq_ok_iff]
  constructor
  · rintro ⟨f, hf, rfl⟩
    exact ⟨⟨f, hf⟩, rfl⟩
  · rintro ⟨⟨f, hf⟩, rfl⟩
    exact ⟨f, hf, rfl⟩

/-- The occurrence that a column reference means, with the hops that lead to it. The path of a root
column is not looked at. -/
def reference? (env : Env) (o : Occurrence) (c : ColumnRef) : Option (Occurrence × List Hop) :=
  match c.scope with
  | .current => (hops? env c.path o).map fun hs => (reached o hs, hs)
  | .root => some (.root env, [])

theorem columnExpr_eq_ok_iff {env : Env} {o : Occurrence} {c : ColumnRef} {js js' : Joins}
    {e : Sql.Expr} :
    columnExpr env o c js = .ok (e, js') ↔ ∃ target hs, reference? env o c = some (target, hs) ∧
      c.name ∈ target.collection.fieldNames ∧ e = .col target.label c.name ∧
      js' = js.insertAll hs := by
  unfold columnExpr reference?
  cases c.scope with
  | current =>
    simp only [Result.bind_eq_ok, Prod.exists, followPath_eq_ok_iff, column_eq_ok_iff,
      Result.pure_eq_ok, Option.map_eq_some_iff, Prod.mk.injEq]
    constructor
    · rintro ⟨_, _, ⟨hs, hhs, rfl, rfl⟩, _, ⟨hname, rfl⟩, rfl, rfl⟩
      exact ⟨_, hs, ⟨hs, hhs, rfl, rfl⟩, hname, rfl, rfl⟩
    · rintro ⟨_, _, ⟨hs, hhs, rfl, rfl⟩, hname, rfl, rfl⟩
      exact ⟨_, _, ⟨hs, hhs, rfl, rfl⟩, _, ⟨hname, rfl⟩, rfl, rfl⟩
  | root =>
    simp only [Result.bind_eq_ok, column_eq_ok_iff, Result.pure_eq_ok, Option.some.injEq,
      Prod.mk.injEq]
    constructor
    · rintro ⟨_, ⟨hname, rfl⟩, rfl, rfl⟩
      exact ⟨_, _, ⟨rfl, rfl⟩, hname, rfl, rfl⟩
    · rintro ⟨_, _, ⟨rfl, rfl⟩, hname, rfl, rfl⟩
      exact ⟨_, ⟨hname, rfl⟩, rfl, rfl⟩

/-- Both sides of every pair of a column mapping are fields. -/
def Ties (r : Relationship) (parent child : Collection) : Prop :=
  ∀ pair ∈ r.columnMapping, pair.1 ∈ parent.fieldNames ∧ pair.2 ∈ child.fieldNames

/-- The condition for one pair of a column mapping. -/
def tieExpr (parent child : String) (pair : String × String) : Sql.Expr :=
  .binary .eq (.col parent pair.1) (.col child pair.2)

theorem correlation_eq_ok_iff {r : Relationship} {parent child : Occurrence}
    {es : List Sql.Expr} :
    correlation r parent child = .ok es ↔ Ties r parent.collection child.collection ∧
      es = r.columnMapping.map (tieExpr parent.label child.label) := by
  have hpair : ∀ pair e, correlationOf parent child pair = .ok e ↔
      (pair.1 ∈ parent.collection.fieldNames ∧ pair.2 ∈ child.collection.fieldNames) ∧
        tieExpr parent.label child.label pair = e := by
    intro pair e
    simp only [correlationOf, Result.bind_eq_ok, column_eq_ok_iff, Result.pure_eq_ok]
    constructor
    · rintro ⟨_, ⟨h1, rfl⟩, _, ⟨h2, rfl⟩, rfl⟩
      exact ⟨⟨h1, h2⟩, rfl⟩
    · rintro ⟨⟨h1, h2⟩, rfl⟩
      exact ⟨_, ⟨h1, rfl⟩, _, ⟨h2, rfl⟩, rfl⟩
  unfold correlation Ties
  generalize r.columnMapping = mapping
  simp only [Result.mapM_eq_ok, hpair]
  induction mapping generalizing es with
  | nil => simp
  | cons pair rest ih =>
    simp only [List.forall₂_cons_left_iff, ih, List.forall_mem_cons, List.map_cons]
    constructor
    · rintro ⟨_, _, ⟨h1, rfl⟩, ⟨h2, rfl⟩, rfl⟩
      exact ⟨⟨h1, h2⟩, rfl⟩
    · rintro ⟨⟨h1, h2⟩, rfl⟩
      exact ⟨_, _, ⟨h1, rfl⟩, ⟨h2, rfl⟩, rfl⟩

/-! ## Conditions -/

/-- The value of the right side of a comparison, if it has one. -/
def operandValue? (bindings : VariableSet) : Operand → Option Value
  | .value v => some v
  | .var name => bindings.values.get? name
  | .column _ => none

theorem operandExpr_eq_ok_iff {env : Env} {rhs : Operand} {e : Sql.Expr} :
    operandExpr env rhs = .ok e ↔ ∃ v, operandValue? env.bindings rhs = some v ∧ e = .value v := by
  cases rhs with
  | value v => simp [operandExpr, operandValue?, eq_comm]
  | var name =>
    simp only [operandExpr, Result.bind_eq_ok, Result.pure_eq_ok, VariableSet.get_eq_ok_iff,
      operandValue?]
    exact exists_congr fun v => and_congr_right fun _ => eq_comm
  | column c => simp [operandExpr, operandValue?]

theorem operatorOf_eq_ok_iff {op : ComparisonOperator} {known : Operator} :
    operatorOf op = .ok known ↔ op = .known known := by
  cases op <;> simp [operatorOf]

theorem existsRelationship_eq_ok_iff {env : Env} {target : Statement.ExistsIn}
    {r : Relationship} :
    existsRelationship env target = .ok r ↔
      ∃ id, target = .related id ∧ env.relationships.get? id = some r := by
  cases target with
  | related id => simp [existsRelationship, Relationships.get_eq_ok_iff]
  | unrelated name => simp [existsRelationship]

section

variable {env : Env} {o : Occurrence} {js js' : Joins} {e : Sql.Expr}

theorem condition_isNull_iff {column : ColumnRef} :
    condition env (.isNull column) o js = .ok (e, js') ↔
      ∃ col, columnExpr env o column js = .ok (col, js') ∧ e = .isNull col := by
  simp only [condition, Result.bind_eq_ok, Prod.exists, Result.pure_eq_ok, Prod.mk.injEq]
  constructor
  · rintro ⟨col, _, hcol, rfl, rfl⟩
    exact ⟨col, hcol, rfl⟩
  · rintro ⟨col, hcol, rfl⟩
    exact ⟨col, _, hcol, rfl, rfl⟩

theorem condition_compare_iff {column : ColumnRef} {op : ComparisonOperator} {rhs : Operand} :
    condition env (.compare column op rhs) o js = .ok (e, js') ↔
      ∃ known v col, op = .known known ∧ operandValue? env.bindings rhs = some v ∧
        columnExpr env o column js = .ok (col, js') ∧ e = .binary known col (.value v) := by
  simp only [condition, Result.bind_eq_ok, Prod.exists, Result.pure_eq_ok, Prod.mk.injEq,
    operandExpr_eq_ok_iff, operatorOf_eq_ok_iff]
  constructor
  · rintro ⟨_, ⟨v, hv, rfl⟩, col, _, hcol, known, hop, rfl, rfl⟩
    exact ⟨known, v, col, hop, hv, hcol, rfl⟩
  · rintro ⟨known, v, col, hop, hv, hcol, rfl⟩
    exact ⟨_, ⟨v, hv, rfl⟩, col, _, hcol, known, hop, rfl, rfl⟩

theorem condition_and_iff {operands : List Condition} :
    condition env (.and operands) o js = .ok (e, js') ↔
      ∃ es, conditions env operands o js = .ok (es, js') ∧ e = .and es := by
  simp only [condition, Result.bind_eq_ok, Prod.exists, Result.pure_eq_ok, Prod.mk.injEq]
  constructor
  · rintro ⟨es, _, hes, rfl, rfl⟩
    exact ⟨es, hes, rfl⟩
  · rintro ⟨es, hes, rfl⟩
    exact ⟨es, _, hes, rfl, rfl⟩

theorem condition_or_iff {operands : List Condition} :
    condition env (.or operands) o js = .ok (e, js') ↔
      ∃ es, conditions env operands o js = .ok (es, js') ∧ e = .or es := by
  simp only [condition, Result.bind_eq_ok, Prod.exists, Result.pure_eq_ok, Prod.mk.injEq]
  constructor
  · rintro ⟨es, _, hes, rfl, rfl⟩
    exact ⟨es, hes, rfl⟩
  · rintro ⟨es, hes, rfl⟩
    exact ⟨es, _, hes, rfl, rfl⟩

theorem condition_not_iff {operand : Condition} :
    condition env (.not operand) o js = .ok (e, js') ↔
      ∃ e', condition env operand o js = .ok (e', js') ∧ e = .not e' := by
  simp only [condition, Result.bind_eq_ok, Prod.exists, Result.pure_eq_ok, Prod.mk.injEq]
  constructor
  · rintro ⟨e', _, he', rfl, rfl⟩
    exact ⟨e', he', rfl⟩
  · rintro ⟨e', he', rfl⟩
    exact ⟨e', _, he', rfl, rfl⟩

/-- An existence check succeeds if its relationship leads to a collection that it ties to the
current one, and its predicate succeeds there. The joins of the predicate stay inside. -/
theorem condition_existsIn_iff {target : Statement.ExistsIn} {predicate : Option Condition} :
    condition env (.existsIn target predicate) o js = .ok (e, js') ↔
      ∃ id r c es inner, target = .related id ∧ env.relationships.get? id = some r ∧
        env.schema.collections.get? r.targetCollection = some c ∧ Ties r o.collection c ∧
        optionalCondition env predicate ⟨c, existsLabel o.label⟩ .empty = .ok (es, inner) ∧
        e = existsExpr ⟨c, existsLabel o.label⟩
          (r.columnMapping.map (tieExpr o.label (existsLabel o.label)) ++ es) inner ∧ js' = js := by
  simp only [condition, Result.bind_eq_ok, Prod.exists, Result.pure_eq_ok, Prod.mk.injEq,
    existsRelationship_eq_ok_iff, Schema.collection_eq_ok_iff, correlation_eq_ok_iff]
  constructor
  · rintro ⟨r, ⟨id, rfl, hr⟩, c, hc, _, ⟨hties, rfl⟩, es, inner, hes, rfl, rfl⟩
    exact ⟨id, r, c, es, inner, rfl, hr, hc, hties, hes, rfl, rfl⟩
  · rintro ⟨id, r, c, es, inner, rfl, hr, hc, hties, hes, rfl, rfl⟩
    exact ⟨r, ⟨id, rfl, hr⟩, c, hc, _, ⟨hties, rfl⟩, es, inner, hes, rfl, rfl⟩

theorem conditions_nil_iff {es : List Sql.Expr} :
    conditions env [] o js = .ok (es, js') ↔ es = [] ∧ js' = js := by
  simp only [conditions, Except.ok.injEq, Prod.mk.injEq, eq_comm]

theorem conditions_cons_iff {c : Condition} {cs : List Condition} {es : List Sql.Expr} :
    conditions env (c :: cs) o js = .ok (es, js') ↔
      ∃ e rest between, condition env c o js = .ok (e, between) ∧
        conditions env cs o between = .ok (rest, js') ∧ es = e :: rest := by
  simp only [conditions, Result.bind_eq_ok, Prod.exists, Result.pure_eq_ok, Prod.mk.injEq]
  constructor
  · rintro ⟨e, between, he, rest, _, hrest, rfl, rfl⟩
    exact ⟨e, rest, between, he, hrest, rfl⟩
  · rintro ⟨e, rest, between, he, hrest, rfl⟩
    exact ⟨e, between, he, rest, _, hrest, rfl, rfl⟩

theorem optionalCondition_none_iff {es : List Sql.Expr} :
    optionalCondition env none o js = .ok (es, js') ↔ es = [] ∧ js' = js := by
  simp only [optionalCondition, Except.ok.injEq, Prod.mk.injEq, eq_comm]

theorem optionalCondition_some_iff {c : Condition} {es : List Sql.Expr} :
    optionalCondition env (some c) o js = .ok (es, js') ↔
      ∃ e, condition env c o js = .ok (e, js') ∧ es = [e] := by
  simp only [optionalCondition, Result.bind_eq_ok, Prod.exists, Result.pure_eq_ok, Prod.mk.injEq]
  constructor
  · rintro ⟨e, _, he, rfl, rfl⟩
    exact ⟨e, he, rfl⟩
  · rintro ⟨e, he, rfl⟩
    exact ⟨e, _, he, rfl, rfl⟩

end

/-! ## Levels -/

section

variable {env : Env} {o : Occurrence}

theorem orderExpr_eq_ok_iff {order : Order} {js js' : Joins} {entry : Sql.Expr × Direction} :
    orderExpr env o order js = .ok (entry, js') ↔
      ∃ c e, order.target = .column c ∧ columnExpr env o c js = .ok (e, js') ∧
        entry = (e, order.direction) := by
  unfold orderExpr
  cases order.target with
  | column c =>
    simp only [Result.bind_eq_ok, Prod.exists, Result.pure_eq_ok, Prod.mk.injEq,
      Statement.OrderTarget.column.injEq]
    constructor
    · rintro ⟨e, _, he, rfl, rfl⟩
      exact ⟨c, e, rfl, he, rfl⟩
    · rintro ⟨_, e, rfl, he, rfl⟩
      exact ⟨e, _, he, rfl, rfl⟩
  | singleColumnAggregate column function path => simp
  | starCountAggregate path => simp

theorem orderExprs_nil_iff {js js' : Joins} {es : List (Sql.Expr × Direction)} :
    orderExprs env o [] js = .ok (es, js') ↔ es = [] ∧ js' = js := by
  simp only [orderExprs, Except.ok.injEq, Prod.mk.injEq, eq_comm]

theorem orderExprs_cons_iff {order : Order} {orders : List Order} {js js' : Joins}
    {es : List (Sql.Expr × Direction)} :
    orderExprs env o (order :: orders) js = .ok (es, js') ↔
      ∃ entry rest between, orderExpr env o order js = .ok (entry, between) ∧
        orderExprs env o orders between = .ok (rest, js') ∧ es = entry :: rest := by
  simp only [orderExprs, Result.bind_eq_ok, Prod.exists (α := Sql.Expr × Direction),
    Prod.exists (α := List (Sql.Expr × Direction)), Result.pure_eq_ok, Prod.mk.injEq]
  constructor
  · rintro ⟨entry, between, he, rest, _, hrest, rfl, rfl⟩
    exact ⟨entry, rest, between, he, hrest, rfl⟩
  · rintro ⟨entry, rest, between, he, hrest, rfl⟩
    exact ⟨entry, between, he, rest, _, hrest, rfl, rfl⟩

/-- A level succeeds if it has no aggregates and its entries, its filter and its ordering do. The
filter and the ordering share their joins. -/
theorem level_eq_ok_iff {q : Query} {tie : List Sql.Expr} {single : Bool} {s : Sql.Select} :
    level env q o tie single = .ok s ↔ q.aggregates = [] ∧ ∃ es conds js orders js',
      entries env q.fields o = .ok es ∧
      optionalCondition env q.filter o .empty = .ok (conds, js) ∧
      orderExprs env o q.orderBy js = .ok (orders, js') ∧
      s = foldSelect (rowSelect o es (tie ++ conds) orders js'
        (Sql.Limit.of? (levelLimit q.limit single) q.offset)) := by
  obtain ⟨fields, aggregates, filter, orderBy, limit, offset⟩ := q
  cases aggregates with
  | cons first rest => simp [level, Result.bind_eq_ok, Result.throw_eq_ok]
  | nil =>
    simp only [level, List.isEmpty_nil, if_true, Result.bind_eq_ok, Prod.exists,
      Result.pure_eq_ok, true_and]
    constructor
    · rintro ⟨es, hes, conds, js, hconds, orders, js', horders, rfl⟩
      exact ⟨es, conds, js, orders, js', hes, hconds, horders, rfl⟩
    · rintro ⟨es, conds, js, orders, js', hes, hconds, horders, rfl⟩
      exact ⟨es, hes, conds, js, hconds, orders, js', horders, rfl⟩

/-- The entries of a row succeed if each of them does, under its own key. -/
theorem entries_eq_ok_iff {fields : List (String × Statement.Field)}
    {es : List (String × Sql.Expr)} :
    entries env fields o = .ok es ↔
      List.Forall₂ (fun f e => e.1 = f.1 ∧ entry env f.2 o f.1 = .ok e.2) fields es := by
  induction fields generalizing es with
  | nil =>
    rw [List.forall₂_nil_left_iff, entries, Except.ok.injEq]
    exact eq_comm
  | cons f rest ih =>
    obtain ⟨name, field⟩ := f
    simp only [entries, Result.bind_eq_ok, Result.pure_eq_ok, List.forall₂_cons_left_iff, ih]
    constructor
    · rintro ⟨e, he, es', hes', rfl⟩
      exact ⟨(name, e), es', ⟨rfl, he⟩, hes', rfl⟩
    · rintro ⟨⟨_, e⟩, es', ⟨rfl, he⟩, hes', rfl⟩
      exact ⟨e, he, es', hes', rfl⟩

theorem forall_mem_entries {P : Sql.Expr → Prop} {fields : List (String × Statement.Field)}
    (ih : ∀ f ∈ fields, ∀ e, entry env f.2 o f.1 = .ok e → P e) {es : List (String × Sql.Expr)}
    (h : entries env fields o = .ok es) : ∀ f ∈ es, P f.2 := by
  have hentries := entries_eq_ok_iff.mp h
  clear h
  induction hentries with
  | nil => exact List.forall_mem_nil _
  | cons hfirst _ ihrest =>
    obtain ⟨ihfirst, ihothers⟩ := List.forall_mem_cons.mp ih
    exact List.forall_mem_cons.mpr ⟨ihfirst _ hfirst.2, ihrest ihothers⟩

theorem entry_column_iff {column name : String} {e : Sql.Expr} :
    entry env (.column column) o name = .ok e ↔
      column ∈ o.collection.fieldNames ∧ e = .col o.label column := by
  simp only [entry, Result.bind_eq_ok, column_eq_ok_iff, Result.pure_eq_ok]
  constructor
  · rintro ⟨_, ⟨hcolumn, rfl⟩, rfl⟩
    exact ⟨hcolumn, rfl⟩
  · rintro ⟨hcolumn, rfl⟩
    exact ⟨_, ⟨hcolumn, rfl⟩, rfl⟩

theorem entry_relationship_iff {id : RelationshipId} {q : Query} {name : String} {e : Sql.Expr} :
    entry env (.relationship id q) o name = .ok e ↔
      ∃ r c rows, env.relationships.get? id = some r ∧
        env.schema.collections.get? r.targetCollection = some c ∧ Ties r o.collection c ∧
        level env q ⟨c, nestedLabel o.label name⟩
          (r.columnMapping.map (tieExpr o.label (nestedLabel o.label name)))
          (r.cardinality == .object) = .ok rows ∧ e = .json (.subquery rows) := by
  simp only [entry, Result.bind_eq_ok, Result.pure_eq_ok, Relationships.get_eq_ok_iff,
    Schema.collection_eq_ok_iff, correlation_eq_ok_iff]
  constructor
  · rintro ⟨r, hr, c, hc, _, ⟨hties, rfl⟩, rows, hrows, rfl⟩
    exact ⟨r, c, rows, hr, hc, hties, hrows, rfl⟩
  · rintro ⟨r, c, rows, hr, hc, hties, hrows, rfl⟩
    exact ⟨r, hr, c, hc, _, ⟨hties, rfl⟩, rows, hrows, rfl⟩

theorem compile_eq_ok_iff {schema : Schema} {s : Statement} {bindings : VariableSet}
    {t : Sql.Select} :
    compile schema s bindings = .ok t ↔
      ∃ root rows, schema.collections.get? s.collection = some root ∧
        level ⟨schema, s.relationships, bindings, root⟩ s.query ⟨root, root.name⟩ [] false =
          .ok rows ∧ t = .scalar (.subquery rows) (some dataColumn) := by
  simp only [compile, Result.bind_eq_ok, Result.pure_eq_ok, Schema.collection_eq_ok_iff,
    Occurrence.root]
  constructor
  · rintro ⟨root, hroot, rows, hrows, rfl⟩
    exact ⟨root, rows, hroot, hrows, rfl⟩
  · rintro ⟨root, rows, hroot, hrows, rfl⟩
    exact ⟨root, hroot, rows, hrows, rfl⟩

end

end Selection

end CollectionSql
