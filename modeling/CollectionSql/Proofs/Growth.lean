import CollectionSql.Proofs.Compilation
import CollectionSql.Proofs.Induction
import CollectionSql.Proofs.Values

/-!
# What compiles still compiles when more is known

A compilation that succeeds has found everything that it looked up. In an environment that has more
collections or gives values to more variables, it finds the same things and builds the same tree.

So the text of a plan does not depend on the variable set at all. Two sets that both succeed may
give values to different variables, but each of them can be completed with the variables of the
other; then they have the same names, and only their values differ.

Results:
* `Env.Extends`: an environment in which more is known.
* `condition_extends`, `level_extends`: conditions and levels that compile are not changed.
* `Plan.sql_eq_of_compile`: the plans for two variable sets have the same text.
-/

namespace CollectionSql.Selection

open Statement (ColumnRef Condition Operand Order Query)

/-- `env'` has all that `env` has, and the same keys between the collections of `env`. -/
structure Env.Extends (env' env : Env) : Prop where
  relationships : env'.relationships = env.relationships
  root : env'.root = env.root
  collection : ∀ {name : String} {c : Collection}, env.schema.collections.get? name = some c →
    env'.schema.collections.get? name = some c
  key : ∀ {name : String} {target : Collection},
    env.schema.collections.get? name = some target → ∀ (r : Relationship) (current : Collection),
      chooseKey env'.schema r current target = chooseKey env.schema r current target
  value : ∀ {name : String} {v : Value}, env.bindings.values.get? name = some v →
    env'.bindings.values.get? name = some v

section

variable {env env' : Env}

/-! ## Paths and columns -/

theorem hop?_extends (henv : env'.Extends env) {o : Occurrence} {id : RelationshipId} {h : Hop}
    (hh : hop? env o id = some h) : hop? env' o id = some h := by
  rw [hop?_eq_some_iff] at hh ⊢
  obtain ⟨r, target, key, hr, htarget, hkey, rfl⟩ := hh
  refine ⟨r, target, key, ?_, henv.collection htarget, ?_, rfl⟩
  · rw [henv.relationships]
    exact hr
  · rw [henv.key htarget]
    exact hkey

theorem hops?_extends (henv : env'.Extends env) {path : List RelationshipId} {o : Occurrence}
    {hs : List Hop} (hhs : hops? env path o = some hs) : hops? env' path o = some hs := by
  induction path generalizing o hs with
  | nil => exact hhs
  | cons id ids ih =>
    rw [hops?_cons_iff] at hhs ⊢
    obtain ⟨h, rest, hh, hrest, rfl⟩ := hhs
    exact ⟨h, rest, hop?_extends henv hh, ih hrest, rfl⟩

theorem reference?_extends (henv : env'.Extends env) {o : Occurrence} {c : ColumnRef}
    {found : Occurrence × List Hop} (h : reference? env o c = some found) :
    reference? env' o c = some found := by
  unfold reference? at h ⊢
  cases hscope : c.scope with
  | current =>
    simp only [hscope, Option.map_eq_some_iff] at h ⊢
    obtain ⟨hs, hhs, rfl⟩ := h
    exact ⟨hs, hops?_extends henv hhs, rfl⟩
  | root =>
    simp only [hscope, Occurrence.root, henv.root] at h ⊢
    exact h

theorem columnExpr_extends (henv : env'.Extends env) {o : Occurrence} {c : ColumnRef}
    {js js' : Joins} {e : Sql.Expr} (h : columnExpr env o c js = .ok (e, js')) :
    columnExpr env' o c js = .ok (e, js') := by
  rw [columnExpr_eq_ok_iff] at h ⊢
  obtain ⟨target, hs, href, hname, rfl, rfl⟩ := h
  exact ⟨target, hs, reference?_extends henv href, hname, rfl, rfl⟩

/-! ## Conditions -/

theorem operandValue?_extends (henv : env'.Extends env) {rhs : Operand} {v : Value}
    (h : operandValue? env.bindings rhs = some v) : operandValue? env'.bindings rhs = some v := by
  cases rhs with
  | value v' => exact h
  | var name => exact henv.value h
  | column c => cases h

theorem conditions_extends {cs : List Condition} {o : Occurrence}
    (ih : ∀ c ∈ cs, ∀ {js js' e}, condition env c o js = .ok (e, js') →
      condition env' c o js = .ok (e, js')) {js js' : Joins} {es : List Sql.Expr}
    (h : conditions env cs o js = .ok (es, js')) : conditions env' cs o js = .ok (es, js') := by
  induction cs generalizing js es with
  | nil =>
    rw [conditions_nil_iff] at h ⊢
    exact h
  | cons c cs hcs =>
    obtain ⟨hc, hrest⟩ := List.forall_mem_cons.mp ih
    rw [conditions_cons_iff] at h ⊢
    obtain ⟨e, rest, between, he, hes, rfl⟩ := h
    exact ⟨e, rest, between, hc he, hcs hrest hes, rfl⟩

theorem optionalCondition_extends {p : Option Condition} {o : Occurrence}
    (ih : ∀ c, p = some c → ∀ {js js' e}, condition env c o js = .ok (e, js') →
      condition env' c o js = .ok (e, js')) {js js' : Joins} {es : List Sql.Expr}
    (h : optionalCondition env p o js = .ok (es, js')) :
    optionalCondition env' p o js = .ok (es, js') := by
  cases p with
  | none =>
    rw [optionalCondition_none_iff] at h ⊢
    exact h
  | some c =>
    rw [optionalCondition_some_iff] at h ⊢
    obtain ⟨e, he, rfl⟩ := h
    exact ⟨e, ih c rfl he, rfl⟩

/-- A condition that compiles is not changed by what is known besides. -/
theorem condition_extends (henv : env'.Extends env) (c : Condition) {o : Occurrence}
    {js js' : Joins} {e : Sql.Expr} (h : condition env c o js = .ok (e, js')) :
    condition env' c o js = .ok (e, js') := by
  induction c using Condition.induction generalizing o js js' e with
  | isNull column =>
    rw [condition_isNull_iff] at h ⊢
    obtain ⟨col, hcol, rfl⟩ := h
    exact ⟨col, columnExpr_extends henv hcol, rfl⟩
  | compare column op rhs =>
    rw [condition_compare_iff] at h ⊢
    obtain ⟨known, v, col, hop, hv, hcol, rfl⟩ := h
    exact ⟨known, v, col, hop, operandValue?_extends henv hv, columnExpr_extends henv hcol, rfl⟩
  | and operands ih =>
    rw [condition_and_iff] at h ⊢
    obtain ⟨es, hes, rfl⟩ := h
    exact ⟨es, conditions_extends (fun c hc => ih c hc) hes, rfl⟩
  | or operands ih =>
    rw [condition_or_iff] at h ⊢
    obtain ⟨es, hes, rfl⟩ := h
    exact ⟨es, conditions_extends (fun c hc => ih c hc) hes, rfl⟩
  | not operand ih =>
    rw [condition_not_iff] at h ⊢
    obtain ⟨e', he', rfl⟩ := h
    exact ⟨e', ih he', rfl⟩
  | existsIn target predicate ih =>
    rw [condition_existsIn_iff] at h ⊢
    obtain ⟨id, r, c, es, inner, htarget, hr, hc, hties, hes, rfl, rfl⟩ := h
    refine ⟨id, r, c, es, inner, htarget, ?_, henv.collection hc, hties, ?_, rfl, rfl⟩
    · rw [henv.relationships]
      exact hr
    · exact optionalCondition_extends (fun d hd => ih d hd) hes

/-! ## Levels -/

theorem orderExprs_extends (henv : env'.Extends env) {orders : List Order} {o : Occurrence}
    {js js' : Joins} {es : List (Sql.Expr × Direction)}
    (h : orderExprs env o orders js = .ok (es, js')) :
    orderExprs env' o orders js = .ok (es, js') := by
  induction orders generalizing js es with
  | nil =>
    rw [orderExprs_nil_iff] at h ⊢
    exact h
  | cons order orders ih =>
    rw [orderExprs_cons_iff] at h ⊢
    obtain ⟨first, rest, between, hfirst, hrest, rfl⟩ := h
    refine ⟨first, rest, between, ?_, ih hrest, rfl⟩
    rw [orderExpr_eq_ok_iff] at hfirst ⊢
    obtain ⟨c, e, htarget, he, rfl⟩ := hfirst
    exact ⟨c, e, htarget, columnExpr_extends henv he, rfl⟩

theorem entries_extends {fields : List (String × Statement.Field)} {o : Occurrence}
    (ih : ∀ f ∈ fields, ∀ {e}, entry env f.2 o f.1 = .ok e → entry env' f.2 o f.1 = .ok e)
    {es : List (String × Sql.Expr)} (h : entries env fields o = .ok es) :
    entries env' fields o = .ok es := by
  rw [entries_eq_ok_iff] at h ⊢
  induction h with
  | nil => exact .nil
  | cons hfirst _ hall =>
    obtain ⟨hentry, hrest⟩ := List.forall_mem_cons.mp ih
    exact .cons ⟨hfirst.1, hentry hfirst.2⟩ (hall hrest)

/-- A level that compiles is not changed by what is known besides. -/
theorem level_extends (henv : env'.Extends env) (q : Query) {o : Occurrence}
    {tie : List Sql.Expr} {single : Bool} {rows : Sql.Select}
    (h : level env q o tie single = .ok rows) : level env' q o tie single = .ok rows := by
  induction q using Query.induction generalizing o tie single rows with
  | step q ih =>
    rw [level_eq_ok_iff] at h ⊢
    obtain ⟨haggregates, es, conds, js, orders, js', hes, hconds, horders, rfl⟩ := h
    refine ⟨haggregates, es, conds, js, orders, js', ?_, ?_, orderExprs_extends henv horders, rfl⟩
    · refine entries_extends ?_ hes
      rintro ⟨name, field⟩ hfield e he
      cases field with
      | column column =>
        rw [entry_column_iff] at he ⊢
        exact he
      | relationship id nested =>
        rw [entry_relationship_iff] at he ⊢
        obtain ⟨r, c, rows, hr, hc, hties, hrows, rfl⟩ := he
        refine ⟨r, c, rows, ?_, henv.collection hc, hties, ih name id nested hfield hrows, rfl⟩
        rw [henv.relationships]
        exact hr
    · exact optionalCondition_extends (fun c _ => condition_extends henv c) hconds

end

end CollectionSql.Selection

/-! ## More variables -/

namespace CollectionSql

/-- A variable set completed with the variables of another that it gives no value to. -/
def VariableSet.complete (b b' : VariableSet) : VariableSet := ⟨b.values ++ b'.values⟩

theorem VariableSet.get?_complete {b : VariableSet} (b' : VariableSet) {name : String} {v : Value}
    (h : b.values.get? name = some v) : (b.complete b').values.get? name = some v := by
  rw [complete, Dict.get?_append, h]
  rfl

/-- Sets that are completed with each other give values to the same variables. -/
theorem VariableSet.sameNames_complete (b b' : VariableSet) :
    (b.complete b').SameNames (b'.complete b) := by
  intro name
  simp only [complete, Dict.keys, List.map_append, List.mem_append]
  exact Or.comm

theorem Selection.compile_complete {schema : Schema} {s : Statement} {b : VariableSet}
    {t : Sql.Select} (h : compile schema s b = .ok t) (b' : VariableSet) :
    compile schema s (b.complete b') = .ok t := by
  rw [compile_eq_ok_iff] at h ⊢
  obtain ⟨root, rows, hroot, hrows, rfl⟩ := h
  refine ⟨root, rows, hroot, level_extends ?_ s.query hrows, rfl⟩
  exact ⟨rfl, rfl, id, fun _ _ _ => rfl, VariableSet.get?_complete b'⟩

/-- The plans for two variable sets have the same text, whatever variables the sets give values
to. -/
theorem Plan.sql_eq_of_compile {schema : Schema} {s : Statement} {b b' : VariableSet}
    {p p' : Plan} (h : Plan.compile schema s b = .ok p) (h' : Plan.compile schema s b' = .ok p') :
    p.sql = p'.sql := by
  simp only [Plan.compile, Result.bind_eq_ok, Result.pure_eq_ok] at h h'
  obtain ⟨t, ht, rfl⟩ := h
  obtain ⟨t', ht', rfl⟩ := h'
  have hsame : (b'.complete b).SameNames (b'.complete b) := fun _ => Iff.rfl
  have hblank := Selection.compile_blank (b.sameNames_complete b') schema s
  have hblank' := Selection.compile_blank hsame schema s
  rw [← hblank', Selection.compile_complete ht, Selection.compile_complete ht'] at hblank
  have houtline : t.outline = t'.outline := Except.ok.inj hblank
  show t.text = t'.text
  rw [← t.text_outline, houtline, t'.text_outline]

end CollectionSql
