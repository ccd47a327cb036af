import CollectionSql.Proofs.Batches
import CollectionSql.Proofs.LoweringFaults

/-!
# Handles under other numbers

A handle is a position in the table of relationships, so a table with its entries in another order,
or with more of them, gives other handles to the same names. What a request compiles to does not
show them: the two tables lead to two statements that differ in their handles only, and wherever
compilation looks up a handle it finds the same relationship, or the same error, in both.

Results:
* `queryOf_renumber`: lowering with another table gives the same query with other handles.
* `condition_renumber`, `level_renumber`: with handles that lead to the same relationships,
  conditions and levels compile alike.
* `Relationships.get_handleIn`, `Relationships.resolve_handleIn`: the handles of a table whose
  entries are in another one too.
* `Request.compileIn_congr`: a request compiles alike with two tables that agree on its names.
-/

namespace CollectionSql

/-! ## Other numbers in a statement -/

namespace Statement

/-- A column reference with other handles. -/
def ColumnRef.renumber (f : RelationshipId → RelationshipId) (c : ColumnRef) : ColumnRef :=
  { c with path := c.path.map f }

/-- The right side of a comparison with other handles. -/
def Operand.renumber (f : RelationshipId → RelationshipId) : Operand → Operand
  | .value v => .value v
  | .var name => .var name
  | .column c => .column (c.renumber f)

/-- Where an existence check looks, with another handle. -/
def ExistsIn.renumber (f : RelationshipId → RelationshipId) : ExistsIn → ExistsIn
  | .related id => .related (f id)
  | .unrelated collection => .unrelated collection

mutual

/-- A condition with other handles. -/
def Condition.renumber (f : RelationshipId → RelationshipId) : Condition → Condition
  | .isNull column => .isNull (column.renumber f)
  | .compare column op rhs => .compare (column.renumber f) op (rhs.renumber f)
  | .and operands => .and (Condition.renumberAll f operands)
  | .or operands => .or (Condition.renumberAll f operands)
  | .not operand => .not (operand.renumber f)
  | .existsIn target predicate => .existsIn (target.renumber f) (Condition.renumber? f predicate)

/-- A list of conditions with other handles. -/
def Condition.renumberAll (f : RelationshipId → RelationshipId) : List Condition → List Condition
  | [] => []
  | c :: cs => c.renumber f :: Condition.renumberAll f cs

/-- A condition that may be absent, with other handles. -/
def Condition.renumber? (f : RelationshipId → RelationshipId) :
    Option Condition → Option Condition
  | none => none
  | some c => some (c.renumber f)

end

/-- What rows are ordered by, with other handles. -/
def OrderTarget.renumber (f : RelationshipId → RelationshipId) : OrderTarget → OrderTarget
  | .column c => .column (c.renumber f)
  | .singleColumnAggregate name function path => .singleColumnAggregate name function (path.map f)
  | .starCountAggregate path => .starCountAggregate (path.map f)

/-- A criterion of an ordering with other handles. -/
def Order.renumber (f : RelationshipId → RelationshipId) (o : Order) : Order :=
  ⟨o.target.renumber f, o.direction⟩

mutual

/-- A query with other handles. -/
def Query.renumber (f : RelationshipId → RelationshipId) : Query → Query
  | ⟨fields, aggregates, filter, orderBy, limit, offset⟩ =>
    ⟨Query.renumberFields f fields, aggregates, Condition.renumber? f filter,
      orderBy.map (Order.renumber f), limit, offset⟩

/-- The entries of a row with other handles. -/
def Query.renumberFields (f : RelationshipId → RelationshipId) :
    List (String × Field) → List (String × Field)
  | [] => []
  | (name, field) :: rest => (name, field.renumber f) :: Query.renumberFields f rest

/-- An entry of a row with other handles. -/
def Field.renumber (f : RelationshipId → RelationshipId) : Field → Field
  | .column name => .column name
  | .relationship id query => .relationship (f id) (query.renumber f)

end

/-! ## Lowering with another table -/

/-- The second table has a handle for the name of a use iff the first one has, and `f` takes the
handle of the first to that of the second. -/
def ResolvesAs (t u : Relationships) (f : RelationshipId → RelationshipId)
    (use : Request.PathElement) : Prop :=
  u.resolve use.relationship = (t.resolve use.relationship).map f

section

variable {t u : Relationships} {f : RelationshipId → RelationshipId}

theorem hopOf_renumber {e : Request.PathElement} (h : ResolvesAs t u f e) :
    hopOf u e = (hopOf t e).map f := by
  unfold hopOf
  by_cases hplain : isUnconditional e = true
  · rw [if_pos hplain, if_pos hplain]
    exact h
  · rw [if_neg hplain, if_neg hplain]
    rfl

theorem pathOf_renumber {path : List Request.PathElement} (h : ∀ e ∈ path, ResolvesAs t u f e) :
    pathOf u path = (pathOf t path).map (List.map f) := by
  unfold pathOf
  induction path with
  | nil => rfl
  | cons e path ih =>
    obtain ⟨he, hpath⟩ := List.forall_mem_cons.mp h
    rw [List.mapM_cons, List.mapM_cons]
    refine Result.bind_eq_map_bind (hopOf_renumber he) fun id => ?_
    exact Result.bind_eq_map_bind (ih hpath) fun ids => rfl

theorem columnOf_renumber {column : Request.ComparisonTarget}
    (h : ∀ e ∈ column.uses, ResolvesAs t u f e) :
    columnOf u column = (columnOf t column).map (ColumnRef.renumber f) := by
  cases column with
  | column name path => exact Result.bind_eq_map_bind (pathOf_renumber h) fun ids => rfl
  | rootColumn name => rfl

theorem operandOf_renumber {value : Request.ComparisonValue}
    (h : ∀ e ∈ value.uses, ResolvesAs t u f e) :
    operandOf u value = (operandOf t value).map (Operand.renumber f) := by
  cases value with
  | column column => exact Result.bind_eq_map_bind (columnOf_renumber h) fun c => rfl
  | scalar value => rfl
  | var name => rfl

theorem existsInOf_renumber {collection : Request.ExistsIn}
    (h : ∀ e ∈ collection.uses, ResolvesAs t u f e) :
    existsInOf u collection = (existsInOf t collection).map (ExistsIn.renumber f) := by
  cases collection with
  | related relationship arguments =>
    have hname := h _ (List.mem_singleton.mpr rfl)
    exact Result.bind_eq_map_bind hname fun id => rfl
  | unrelated collection arguments => rfl

theorem conditionsOf_renumber {es : List Request.Expression}
    (ih : ∀ e ∈ es, (∀ use ∈ e.uses, ResolvesAs t u f use) →
      conditionOf u e = (conditionOf t e).map (Condition.renumber f))
    (h : ∀ use ∈ Request.Expression.usesOfAll es, ResolvesAs t u f use) :
    conditionsOf u es = (conditionsOf t es).map (Condition.renumberAll f) := by
  induction es with
  | nil => rfl
  | cons e es ihes =>
    obtain ⟨ihe, ihrest⟩ := List.forall_mem_cons.mp ih
    rw [Request.Expression.usesOfAll, List.forall_mem_append] at h
    rw [conditionsOf, conditionsOf]
    refine Result.bind_eq_map_bind (ihe h.1) fun c => ?_
    exact Result.bind_eq_map_bind (ihes ihrest h.2) fun cs => rfl

theorem conditionOf?_renumber_of {p : Option Request.Expression}
    (ih : ∀ e, p = some e → (∀ use ∈ e.uses, ResolvesAs t u f use) →
      conditionOf u e = (conditionOf t e).map (Condition.renumber f))
    (h : ∀ use ∈ Request.Expression.usesOf? p, ResolvesAs t u f use) :
    conditionOf? u p = (conditionOf? t p).map (Condition.renumber? f) := by
  cases p with
  | none => rfl
  | some e => exact Result.bind_eq_map_bind (ih e rfl h) fun c => rfl

/-- Lowering with another table gives the same condition with other handles. -/
theorem conditionOf_renumber (e : Request.Expression) (h : ∀ use ∈ e.uses, ResolvesAs t u f use) :
    conditionOf u e = (conditionOf t e).map (Condition.renumber f) := by
  induction e using Request.Expression.induction with
  | and operands ih => exact Result.bind_eq_map_bind (conditionsOf_renumber ih h) fun cs => rfl
  | or operands ih => exact Result.bind_eq_map_bind (conditionsOf_renumber ih h) fun cs => rfl
  | not operand ih => exact Result.bind_eq_map_bind (ih h) fun c => rfl
  | isNull column => exact Result.bind_eq_map_bind (columnOf_renumber h) fun c => rfl
  | compare column operator value =>
    obtain ⟨hcolumn, hvalue⟩ := List.forall_mem_append.mp h
    refine Result.bind_eq_map_bind (columnOf_renumber hcolumn) fun c => ?_
    exact Result.bind_eq_map_bind (operandOf_renumber hvalue) fun rhs => rfl
  | existsIn collection predicate ih =>
    obtain ⟨hcollection, hpredicate⟩ := List.forall_mem_append.mp h
    refine Result.bind_eq_map_bind (existsInOf_renumber hcollection) fun target => ?_
    exact Result.bind_eq_map_bind (conditionOf?_renumber_of ih hpredicate) fun p => rfl

theorem conditionOf?_renumber {p : Option Request.Expression}
    (h : ∀ use ∈ Request.Expression.usesOf? p, ResolvesAs t u f use) :
    conditionOf? u p = (conditionOf? t p).map (Condition.renumber? f) :=
  conditionOf?_renumber_of (fun e _ he => conditionOf_renumber e he) h

theorem orderOf_renumber {e : Request.OrderByElement}
    (h : ∀ use ∈ e.target.uses, ResolvesAs t u f use) :
    orderOf u e = (orderOf t e).map (Order.renumber f) := by
  have htarget : orderTargetOf u e.target =
      (orderTargetOf t e.target).map (OrderTarget.renumber f) := by
    cases htarget : e.target <;>
    · rw [htarget] at h
      exact Result.bind_eq_map_bind (pathOf_renumber h) fun ids => rfl
  exact Result.bind_eq_map_bind htarget fun target => rfl

theorem ordersOf_renumber {es : List Request.OrderByElement}
    (h : ∀ use ∈ es.flatMap fun e => e.target.uses, ResolvesAs t u f use) :
    es.mapM (orderOf u) = (es.mapM (orderOf t)).map (List.map (Order.renumber f)) := by
  induction es with
  | nil => rfl
  | cons e es ih =>
    rw [List.flatMap_cons, List.forall_mem_append] at h
    rw [List.mapM_cons, List.mapM_cons]
    refine Result.bind_eq_map_bind (orderOf_renumber h.1) fun o => ?_
    exact Result.bind_eq_map_bind (ih h.2) fun os => rfl

theorem fieldsOf_renumber {fields : List (String × Request.Field)}
    (ih : ∀ key nested relationship arguments,
      (key, Request.Field.relationship nested relationship arguments) ∈ fields →
        (∀ use ∈ nested.uses, ResolvesAs t u f use) →
          queryOf u nested = (queryOf t nested).map (Query.renumber f))
    (h : ∀ use ∈ Request.Field.usesOfAll fields, ResolvesAs t u f use) :
    fieldsOf u fields = (fieldsOf t fields).map (Query.renumberFields f) := by
  induction fields with
  | nil => rfl
  | cons entry rest ihrest =>
    obtain ⟨key, field⟩ := entry
    rw [Request.Field.usesOfAll, List.forall_mem_append] at h
    have hfield : fieldOf u field = (fieldOf t field).map (Field.renumber f) := by
      cases field with
      | column name => rfl
      | relationship nested relationship arguments =>
        obtain ⟨hname, hnested⟩ := List.forall_mem_cons.mp h.1
        refine Result.bind_eq_map_bind hname fun id => ?_
        exact Result.bind_eq_map_bind
          (ih key nested relationship arguments List.mem_cons_self hnested) fun query => rfl
    rw [fieldsOf, fieldsOf]
    refine Result.bind_eq_map_bind hfield fun g => ?_
    refine Result.bind_eq_map_bind (ihrest ?_ h.2) fun gs => rfl
    intro key nested relationship arguments hmem
    exact ih key nested relationship arguments (List.mem_cons_of_mem _ hmem)

/-- Lowering with another table gives the same query with other handles. -/
theorem queryOf_renumber (q : Request.Query) (h : ∀ use ∈ q.uses, ResolvesAs t u f use) :
    queryOf u q = (queryOf t q).map (Query.renumber f) := by
  induction q using Request.Query.induction with
  | step q ih =>
    rw [Request.Query.uses_eq, List.forall_mem_append, List.forall_mem_append] at h
    obtain ⟨hfields, hpredicate, horderBy⟩ := h
    obtain ⟨aggregates, fields, limit, offset, orderBy, predicate⟩ := q
    rw [queryOf, queryOf, fieldsOf?_eq, fieldsOf?_eq]
    refine Result.bind_eq_map_bind (fieldsOf_renumber ih hfields) fun fs => ?_
    refine Result.bind_eq_map_bind (conditionOf?_renumber hpredicate) fun c => ?_
    exact Result.bind_eq_map_bind (ordersOf_renumber horderBy) fun os => rfl

end

end Statement

/-! ## Compiling with another table -/

namespace Selection

open Statement (ColumnRef Condition Operand Order Query)

/-- An environment with another table of relationships. -/
def Env.withTable (env : Env) (u : Relationships) : Env := { env with relationships := u }

section

variable {env : Env} {u : Relationships} {f : RelationshipId → RelationshipId}

theorem followPath_renumber (hf : ∀ id, u.get (f id) = env.relationships.get id)
    (path : List RelationshipId) (o : Occurrence) (js : Joins) :
    followPath (env.withTable u) (path.map f) o js = followPath env path o js := by
  induction path generalizing o js with
  | nil => rfl
  | cons id ids ih =>
    have hhop : hop (env.withTable u) o (f id) js = hop env o id js := by
      show (u.get (f id) >>= _) = (env.relationships.get id >>= _)
      rw [hf]
      rfl
    simp only [List.map_cons, followPath, hhop, ih]

theorem columnExpr_renumber (hf : ∀ id, u.get (f id) = env.relationships.get id) (o : Occurrence)
    (c : ColumnRef) (js : Joins) :
    columnExpr (env.withTable u) o (c.renumber f) js = columnExpr env o c js := by
  unfold columnExpr ColumnRef.renumber
  simp only [followPath_renumber hf]
  rfl

theorem operandExpr_renumber (rhs : Operand) :
    operandExpr (env.withTable u) (rhs.renumber f) = operandExpr env rhs := by
  cases rhs <;> rfl

theorem existsRelationship_renumber (hf : ∀ id, u.get (f id) = env.relationships.get id)
    (target : Statement.ExistsIn) :
    existsRelationship (env.withTable u) (target.renumber f) = existsRelationship env target := by
  cases target with
  | related id => exact hf id
  | unrelated collection => rfl

theorem conditions_renumber {cs : List Condition} {o : Occurrence}
    (ih : ∀ c ∈ cs, ∀ js,
      condition (env.withTable u) (c.renumber f) o js = condition env c o js) (js : Joins) :
    conditions (env.withTable u) (Condition.renumberAll f cs) o js = conditions env cs o js := by
  induction cs generalizing js with
  | nil => rfl
  | cons c cs ihcs =>
    obtain ⟨hc, hrest⟩ := List.forall_mem_cons.mp ih
    simp only [Condition.renumberAll, conditions, hc, ihcs hrest]

theorem optionalCondition_renumber_of {p : Option Condition} {o : Occurrence}
    (ih : ∀ c, p = some c → ∀ js,
      condition (env.withTable u) (c.renumber f) o js = condition env c o js) (js : Joins) :
    optionalCondition (env.withTable u) (Condition.renumber? f p) o js =
      optionalCondition env p o js := by
  cases p with
  | none => rfl
  | some c => simp only [Condition.renumber?, optionalCondition, ih c rfl]

/-- With handles that lead to the same relationships a condition compiles alike. -/
theorem condition_renumber (hf : ∀ id, u.get (f id) = env.relationships.get id) (c : Condition)
    (o : Occurrence) (js : Joins) :
    condition (env.withTable u) (c.renumber f) o js = condition env c o js := by
  induction c using Condition.induction generalizing o js with
  | isNull column => simp only [Condition.renumber, condition, columnExpr_renumber hf]
  | compare column op rhs =>
    simp only [Condition.renumber, condition, operandExpr_renumber, columnExpr_renumber hf]
  | and operands ih =>
    simp only [Condition.renumber, condition, conditions_renumber fun c hc js => ih c hc o js]
  | or operands ih =>
    simp only [Condition.renumber, condition, conditions_renumber fun c hc js => ih c hc o js]
  | not operand ih => simp only [Condition.renumber, condition, ih]
  | existsIn target predicate ih =>
    simp only [Condition.renumber, condition, existsRelationship_renumber hf,
      optionalCondition_renumber_of fun c hc js => ih c hc _ js]
    rfl

theorem orderExprs_renumber (hf : ∀ id, u.get (f id) = env.relationships.get id) (o : Occurrence)
    (orders : List Order) (js : Joins) :
    orderExprs (env.withTable u) o (orders.map (Order.renumber f)) js =
      orderExprs env o orders js := by
  have horder : ∀ (order : Order) js,
      orderExpr (env.withTable u) o (order.renumber f) js = orderExpr env o order js := by
    rintro ⟨target, direction⟩ js
    cases target with
    | column c =>
      simp only [Order.renumber, Statement.OrderTarget.renumber, orderExpr,
        columnExpr_renumber hf]
    | singleColumnAggregate column function path => rfl
    | starCountAggregate path => rfl
  induction orders generalizing js with
  | nil => rfl
  | cons order orders ih => simp only [List.map_cons, orderExprs, horder, ih]

theorem entries_renumber {fields : List (String × Statement.Field)} {o : Occurrence}
    (ih : ∀ e ∈ fields, entry (env.withTable u) (e.2.renumber f) o e.1 = entry env e.2 o e.1) :
    entries (env.withTable u) (Query.renumberFields f fields) o = entries env fields o := by
  induction fields with
  | nil => rfl
  | cons e rest ihrest =>
    obtain ⟨name, field⟩ := e
    obtain ⟨hfield, hrest⟩ := List.forall_mem_cons.mp ih
    simp only [Query.renumberFields, entries, hfield, ihrest hrest]

/-- With handles that lead to the same relationships a level compiles alike. -/
theorem level_renumber (hf : ∀ id, u.get (f id) = env.relationships.get id) (q : Query)
    (o : Occurrence) (tie : List Sql.Expr) (single : Bool) :
    level (env.withTable u) (q.renumber f) o tie single = level env q o tie single := by
  induction q using Query.induction generalizing o tie single with
  | step q ih =>
    have hentry : ∀ e ∈ q.fields,
        entry (env.withTable u) (e.2.renumber f) o e.1 = entry env e.2 o e.1 := by
      rintro ⟨name, field⟩ hfield
      cases field with
      | column column => rfl
      | relationship id nested =>
        show (u.get (f id) >>= _) = (env.relationships.get id >>= _)
        rw [hf]
        simp only [ih name id nested hfield]
        rfl
    have hfilter := fun p => optionalCondition_renumber_of (p := p) (o := o)
      fun c _ => condition_renumber hf c o
    obtain ⟨fields, aggregates, filter, orderBy, limit, offset⟩ := q
    simp only [Query.renumber, level, entries_renumber hentry, hfilter, orderExprs_renumber hf]

end

end Selection

/-! ## Tables with common entries -/

namespace Relationships

variable {t u : Relationships}

/-- Every entry of `t` is an entry of `u`. -/
def Within (t u : Relationships) : Prop :=
  ∀ entry ∈ t.entries, u.entries.get? entry.1 = some entry.2

/-- The handle in `u` of the relationship behind a handle in `t`. A handle that leads nowhere in `t`
becomes one that leads nowhere in `u`. -/
def handleIn (t u : Relationships) (id : RelationshipId) : RelationshipId :=
  match t.entries[id.index]? with
  | some entry => ⟨(u.entries.index? entry.1).getD u.size⟩
  | none => ⟨u.size⟩

theorem Within.exists_index? (h : t.Within u) {entry : String × Relationship}
    (hentry : entry ∈ t.entries) :
    ∃ i, u.entries.index? entry.1 = some i ∧ u.entries.values[i]? = some entry.2 := by
  have hget := h entry hentry
  have hkey : entry.1 ∈ u.entries.keys := Dict.get?_isSome_iff.mp (by rw [hget]; rfl)
  cases hindex : u.entries.index? entry.1 with
  | none => exact absurd hkey (Dict.index?_eq_none_iff.mp hindex)
  | some i =>
    obtain ⟨value, hvalue, hi⟩ := Dict.get?_of_index? hindex
    rw [hget] at hvalue
    cases hvalue
    exact ⟨i, rfl, hi⟩

theorem get_handleIn (h : t.Within u) (id : RelationshipId) :
    u.get (handleIn t u id) = t.get id := by
  have hlookup : u.get? (handleIn t u id) = t.get? id := by
    have hvalue : t.get? id = t.entries[id.index]?.map Prod.snd := List.getElem?_map
    rw [hvalue, handleIn]
    cases hentry : t.entries[id.index]? with
    | none =>
      show u.entries.values[u.size]? = none
      rw [List.getElem?_eq_none_iff, Dict.values, List.length_map, size]
    | some entry =>
      obtain ⟨i, hindex, hi⟩ := h.exists_index? (List.mem_of_getElem? hentry)
      simp only [hindex, Option.getD_some, Option.map_some]
      exact hi
  rw [get, get, hlookup]

/-- A name that both tables know, or neither, is resolved alike. -/
theorem resolve_handleIn (h : t.Within u) {name : String}
    (hname : t.entries.get? name = u.entries.get? name) :
    u.resolve name = (t.resolve name).map (handleIn t u) := by
  cases hindex : t.entries.index? name with
  | none =>
    have hkey : name ∉ u.entries.keys := by
      rw [← Dict.get?_isSome_iff, ← hname, Dict.get?_isSome_iff]
      exact Dict.index?_eq_none_iff.mp hindex
    rw [resolve, resolve, hindex, Dict.index?_eq_none_iff.mpr hkey]
    rfl
  | some i =>
    obtain ⟨r, -, hentry⟩ := Dict.getElem?_of_index? hindex
    obtain ⟨j, hj, -⟩ := h.exists_index? (List.mem_of_getElem? hentry)
    have hhandle : handleIn t u ⟨i⟩ = ⟨j⟩ := by
      simp only [handleIn, hentry, hj, Option.getD_some]
    rw [resolve, resolve, hindex, hj]
    exact congrArg Except.ok hhandle.symm

/-- The entries of a table under the given names, in the order of the names. -/
def restrict (t : Relationships) (names : List String) : Relationships :=
  ⟨names.filterMap fun name => (t.entries.get? name).map (name, ·)⟩

theorem restrict_within (t : Relationships) (names : List String) :
    (t.restrict names).Within t := by
  intro entry hentry
  obtain ⟨name, -, hname⟩ := List.mem_filterMap.mp hentry
  obtain ⟨r, hr, rfl⟩ := Option.map_eq_some_iff.mp hname
  exact hr

theorem get?_restrict (t : Relationships) {names : List String} {name : String}
    (h : name ∈ names) : (t.restrict names).entries.get? name = t.entries.get? name := by
  have hfound : ∀ r, (t.restrict names).entries.get? name = some r →
      t.entries.get? name = some r := fun r hr =>
    t.restrict_within names _ (Dict.mem_of_get?_eq_some hr)
  cases ht : t.entries.get? name with
  | none =>
    rw [Option.eq_none_iff_forall_ne_some]
    intro r hr
    rw [hfound r hr] at ht
    cases ht
  | some r =>
    have hentry : (name, r) ∈ (t.restrict names).entries :=
      List.mem_filterMap.mpr ⟨name, h, by rw [ht]; rfl⟩
    obtain ⟨r', hr'⟩ := Option.isSome_iff_exists.mp
      (Dict.get?_isSome_iff.mpr (List.mem_map_of_mem hentry))
    rw [hr', ← ht, hfound r' hr']

end Relationships

/-! ## Requests with another table -/

/-- A statement with the handles of another table that holds its relationships too. -/
def Statement.withTable (s : Statement) (u : Relationships) : Statement :=
  { s with query := s.query.renumber (s.relationships.handleIn u), relationships := u }

theorem Selection.compile_withTable {s : Statement} {u : Relationships}
    (h : s.relationships.Within u) (schema : Schema) (bindings : VariableSet) :
    compile schema (s.withTable u) bindings = compile schema s bindings := by
  unfold compile
  refine bind_congr fun root => ?_
  let env : Env := ⟨schema, s.relationships, bindings, root⟩
  have hlevel : level (env.withTable u) (s.withTable u).query ⟨root, root.name⟩ [] false =
      level env s.query ⟨root, root.name⟩ [] false :=
    level_renumber (Relationships.get_handleIn h) s.query _ [] false
  show (level _ _ ⟨root, root.name⟩ [] false >>= _) = (level _ _ ⟨root, root.name⟩ [] false >>= _)
  rw [← hlevel]
  rfl

/-- The values that the runs of a request give to variables. -/
def Request.runs (r : Request) : List VariableSet :=
  (r.variableSets.map (List.map bindings)).getD [.empty]

/-- The plans for a request whose relationships are looked up in a table. -/
def Request.compileIn (schema : Schema) (table : Relationships) (r : Request) :
    Result (List Plan) := do
  let query ← Statement.queryOf table r.query
  r.runs.mapM (Plan.compile schema ⟨r.collection, query, table, none⟩)

theorem Request.compile_eq_compileIn (schema : Schema) (r : Request) :
    r.compile schema = r.compileIn schema (Statement.relationshipsOf r.relationships) := by
  simp only [compile, compileIn, Statement.ofRequest]
  cases Statement.queryOf (Statement.relationshipsOf r.relationships) r.query with
  | error e => rfl
  | ok query => rfl

theorem Plan.compile_withTable {s : Statement} {u : Relationships} (h : s.relationships.Within u)
    (schema : Schema) (bindings : VariableSet) :
    Plan.compile schema (s.withTable u) bindings = Plan.compile schema s bindings := by
  rw [Plan.compile, Selection.compile_withTable h, ← Plan.compile]

theorem Request.compileIn_of_within {t u : Relationships} (h : t.Within u) (schema : Schema)
    {r : Request} (hnames : ∀ use ∈ r.query.uses,
      t.entries.get? use.relationship = u.entries.get? use.relationship) :
    r.compileIn schema u = r.compileIn schema t := by
  have hquery : Statement.queryOf u r.query =
      (Statement.queryOf t r.query).map (Statement.Query.renumber (t.handleIn u)) :=
    Statement.queryOf_renumber r.query fun use huse =>
      Relationships.resolve_handleIn h (hnames use huse)
  rw [compileIn, compileIn, hquery, Result.map_bind]
  refine bind_congr fun query => Result.mapM_congr fun bindings _ => ?_
  exact Plan.compile_withTable (s := ⟨r.collection, query, t, none⟩) h schema bindings

/-- A request compiles alike with two tables that have the same relationships under the names that
it uses, in whatever order and with whatever others. -/
theorem Request.compileIn_congr {t u : Relationships} (schema : Schema) {r : Request}
    (h : ∀ use ∈ r.query.uses,
      t.entries.get? use.relationship = u.entries.get? use.relationship) :
    r.compileIn schema t = r.compileIn schema u := by
  -- both are compared with the table of what they have in common
  have hcommon : t.restrict (r.query.uses.map PathElement.relationship) =
      u.restrict (r.query.uses.map PathElement.relationship) := by
    refine congrArg Relationships.mk (List.filterMap_congr fun name hname => ?_)
    obtain ⟨use, huse, rfl⟩ := List.mem_map.mp hname
    rw [h use huse]
  have hrestrict : ∀ t : Relationships, r.compileIn schema t =
      r.compileIn schema (t.restrict (r.query.uses.map PathElement.relationship)) := fun t =>
    compileIn_of_within (t.restrict_within _) schema fun use huse =>
      t.get?_restrict (List.mem_map_of_mem huse)
  rw [hrestrict t, hrestrict u, hcommon]

end CollectionSql
