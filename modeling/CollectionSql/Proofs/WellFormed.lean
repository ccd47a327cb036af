import CollectionSql.Plan
import CollectionSql.Proofs.Compilation
import CollectionSql.Proofs.Induction

/-!
# Which statements compile

A statement compiles exactly if it is well formed: every collection, field, variable and foreign
key that it relies on is there, and it asks for nothing that has no translation. Well-formedness is
a judgment over the statement and the collection that each part of it is about. It knows nothing of
labels, of joins or of the order in which a compiler looks at things.

Results:
* `chooseKey_isSome_iff`: a hop can be joined iff one of its collections has a key to the other.
* `columnExpr_succeeds_iff`, `condition_succeeds_iff`, `level_succeeds_iff`: references, conditions
  and levels compile iff they are well formed, whatever joins are there already.
* `compile_succeeds_iff`: a statement compiles iff it is well formed.
-/

namespace CollectionSql.Selection

open Statement (ColumnRef Condition Order Query)

/-! ## The judgment -/

/-- Whether some foreign key of the collection points at `target`. -/
def HasKeyTo (c target : Collection) : Prop :=
  ∃ key ∈ c.foreignKeys, key.2.collection = target.name

/-- The relationship `id` is `r`, and it leads to the collection `target`. -/
def LeadsTo (env : Env) (id : RelationshipId) (r : Relationship) (target : Collection) : Prop :=
  env.relationships.get? id = some r ∧
    env.schema.collections.get? r.targetCollection = some target

/-- A path leads from a collection to another: at every hop one of the two collections has a foreign
key to the other. -/
inductive Reaches (env : Env) : Collection → List RelationshipId → Collection → Prop
  | here {c : Collection} : Reaches env c [] c
  | hop {c target last : Collection} {id : RelationshipId} {r : Relationship}
      {path : List RelationshipId} (leads : LeadsTo env id r target)
      (key : HasKeyTo c target ∨ HasKeyTo target c) (rest : Reaches env target path last) :
      Reaches env c (id :: path) last

/-- A column reference made from a collection means a field: of the root collection, or of the
collection at the end of its path. -/
inductive Resolves (env : Env) (c : Collection) (column : ColumnRef) : Prop
  | root (scope : column.scope = .root) (field : column.name ∈ env.root.fieldNames)
  | current {last : Collection} (scope : column.scope = .current)
      (path : Reaches env c column.path last) (field : column.name ∈ last.fieldNames)

/-- A condition over the rows of a collection has a translation. -/
inductive WellFormedCondition (env : Env) : Collection → Condition → Prop
  | isNull {c : Collection} {column : ColumnRef} (column_resolves : Resolves env c column) :
      WellFormedCondition env c (.isNull column)
  | compare {c : Collection} {column : ColumnRef} {op : Operator} {rhs : Statement.Operand}
      (bound : (operandValue? env.bindings rhs).isSome)
      (column_resolves : Resolves env c column) :
      WellFormedCondition env c (.compare column (.known op) rhs)
  | and {c : Collection} {operands : List Condition}
      (each : ∀ d ∈ operands, WellFormedCondition env c d) :
      WellFormedCondition env c (.and operands)
  | or {c : Collection} {operands : List Condition}
      (each : ∀ d ∈ operands, WellFormedCondition env c d) :
      WellFormedCondition env c (.or operands)
  | not {c : Collection} {operand : Condition} (inner : WellFormedCondition env c operand) :
      WellFormedCondition env c (.not operand)
  | existsIn {c target : Collection} {id : RelationshipId} {r : Relationship}
      {predicate : Option Condition} (leads : LeadsTo env id r target) (ties : Ties r c target)
      (inner : ∀ d, predicate = some d → WellFormedCondition env target d) :
      WellFormedCondition env c (.existsIn (.related id) predicate)

mutual

/-- A query over the rows of a collection has a translation. -/
inductive WellFormedQuery (env : Env) : Collection → Query → Prop
  | intro {c : Collection} {q : Query} (plain : q.aggregates = [])
      (fields : ∀ entry ∈ q.fields, WellFormedField env c entry.2)
      (filter : ∀ d, q.filter = some d → WellFormedCondition env c d)
      (orderBy : ∀ order ∈ q.orderBy, ∃ column, order.target = .column column ∧
        Resolves env c column) :
      WellFormedQuery env c q

/-- An entry of a row of a collection has a translation. -/
inductive WellFormedField (env : Env) : Collection → Statement.Field → Prop
  | column {c : Collection} {column : String} (field : column ∈ c.fieldNames) :
      WellFormedField env c (.column column)
  | relationship {c target : Collection} {id : RelationshipId} {r : Relationship} {inner : Query}
      (leads : LeadsTo env id r target) (ties : Ties r c target)
      (nested : WellFormedQuery env target inner) :
      WellFormedField env c (.relationship id inner)

end

/-- A statement has a translation: its collection exists, and its query has one over it. -/
def WellFormedStatement (schema : Schema) (s : Statement) (bindings : VariableSet) : Prop :=
  ∃ root, schema.collections.get? s.collection = some root ∧
    WellFormedQuery ⟨schema, s.relationships, bindings, root⟩ root s.query

/-! ## Paths and references -/

/-- A hop can be joined iff one of its two collections has a foreign key to the other. -/
theorem chooseKey_isSome_iff {schema : Schema} (hs : schema.Keyed) {r : Relationship}
    {c target : Collection} (htarget : target ∈ schema.collections.values) :
    (chooseKey schema r c target).isSome ↔ HasKeyTo c target ∨ HasKeyTo target c := by
  have hsome : (chooseKey schema r c target).isSome ↔ ∃ key, key ∈ hopKeys schema c target := by
    cases hkeys : hopKeys schema c target <;> simp [chooseKey, hkeys]
  simp only [hsome, mem_hopKeys_iff hs htarget]
  constructor
  · rintro ⟨_, ⟨k, hk, hto, rfl⟩ | ⟨k, hk, hto, rfl⟩⟩
    · exact .inl ⟨k, hk, hto⟩
    · exact .inr ⟨k, hk, hto⟩
  · rintro (⟨k, hk, hto⟩ | ⟨k, hk, hto⟩)
    · exact ⟨_, .inl ⟨k, hk, hto, rfl⟩⟩
    · exact ⟨_, .inr ⟨k, hk, hto, rfl⟩⟩

theorem hop?_succeeds_iff {env : Env} (hs : env.schema.Keyed) {o : Occurrence}
    {id : RelationshipId} {target : Collection} :
    (∃ h, hop? env o id = some h ∧ h.target.collection = target) ↔
      ∃ r, LeadsTo env id r target ∧
        (HasKeyTo o.collection target ∨ HasKeyTo target o.collection) := by
  simp only [hop?_eq_some_iff]
  constructor
  · rintro ⟨_, ⟨r, target, key, hr, htarget, hkey, rfl⟩, rfl⟩
    refine ⟨r, ⟨hr, htarget⟩, ?_⟩
    exact (chooseKey_isSome_iff hs (Schema.mem_values_of_get? htarget)).mp (by rw [hkey]; rfl)
  · rintro ⟨r, ⟨hr, htarget⟩, hkeys⟩
    have hsome := (chooseKey_isSome_iff (r := r) hs (Schema.mem_values_of_get? htarget)).mpr hkeys
    obtain ⟨key, hkey⟩ := Option.isSome_iff_exists.mp hsome
    exact ⟨_, ⟨r, target, key, hr, htarget, hkey, rfl⟩, rfl⟩

/-- A path can be followed to a collection iff it reaches it, under whatever label it starts. -/
theorem hops?_succeeds_iff {env : Env} (hs : env.schema.Keyed) {path : List RelationshipId}
    {o : Occurrence} {last : Collection} :
    (∃ hs, hops? env path o = some hs ∧ (reached o hs).collection = last) ↔
      Reaches env o.collection path last := by
  induction path generalizing o with
  | nil =>
    constructor
    · rintro ⟨_, ⟨⟩, rfl⟩
      exact .here
    · rintro ⟨⟩
      exact ⟨[], rfl, rfl⟩
  | cons id ids ih =>
    simp only [hops?_cons_iff]
    constructor
    · rintro ⟨_, ⟨h, rest, hh, hrest, rfl⟩, hlast⟩
      obtain ⟨r, hleads, hkey⟩ := (hop?_succeeds_iff hs).mp ⟨h, hh, rfl⟩
      exact .hop hleads hkey (ih.mp ⟨rest, hrest, hlast⟩)
    · rintro (_ | ⟨hleads, hkey, hpath⟩)
      obtain ⟨h, hh, rfl⟩ := (hop?_succeeds_iff hs).mpr ⟨_, hleads, hkey⟩
      obtain ⟨rest, hrest, hlast⟩ := ih.mpr hpath
      exact ⟨h :: rest, ⟨h, rest, hh, hrest, rfl⟩, hlast⟩

theorem columnExpr_succeeds_iff {env : Env} (hs : env.schema.Keyed) (o : Occurrence)
    (c : ColumnRef) (js : Joins) :
    (∃ result, columnExpr env o c js = .ok result) ↔ Resolves env o.collection c := by
  simp only [Prod.exists, columnExpr_eq_ok_iff, reference?]
  constructor
  · rintro ⟨_, _, target, hops, href, hname, -, -⟩
    split at href
    · next hscope =>
      obtain ⟨hs', hhs, heq⟩ := Option.map_eq_some_iff.mp href
      obtain ⟨rfl, rfl⟩ := Prod.mk.inj heq
      exact .current hscope ((hops?_succeeds_iff hs).mp ⟨hs', hhs, rfl⟩) hname
    · next hscope =>
      cases href
      exact .root hscope hname
  · rintro (⟨hscope, hname⟩ | ⟨hscope, hpath, hname⟩)
    · exact ⟨_, _, .root env, [], by rw [hscope], hname, rfl, rfl⟩
    · obtain ⟨hs', hhs, rfl⟩ := (hops?_succeeds_iff hs).mpr hpath
      refine ⟨_, _, reached o hs', hs', ?_, hname, rfl, rfl⟩
      rw [hscope, hhs]
      rfl

/-! ## Conditions -/

theorem conditions_succeed_iff {env : Env} {o : Occurrence} {cs : List Condition}
    (ih : ∀ c ∈ cs, ∀ js, (∃ result, condition env c o js = .ok result) ↔
      WellFormedCondition env o.collection c) (js : Joins) :
    (∃ result, conditions env cs o js = .ok result) ↔
      ∀ c ∈ cs, WellFormedCondition env o.collection c := by
  induction cs generalizing js with
  | nil => simp [conditions]
  | cons c cs ihcs =>
    obtain ⟨ihc, ihrest⟩ := List.forall_mem_cons.mp ih
    rw [List.forall_mem_cons, ← ihc js]
    simp only [Prod.exists, conditions_cons_iff]
    constructor
    · rintro ⟨_, js', e, rest, between, he, hrest, rfl⟩
      exact ⟨⟨e, between, he⟩, (ihcs ihrest between).mp ⟨(rest, js'), hrest⟩⟩
    · rintro ⟨⟨e, between, he⟩, hwf⟩
      obtain ⟨⟨rest, js'⟩, hrest⟩ := (ihcs ihrest between).mpr hwf
      exact ⟨_, js', e, rest, between, he, hrest, rfl⟩

theorem optionalCondition_succeeds_iff {env : Env} {o : Occurrence} {p : Option Condition}
    (ih : ∀ c, p = some c → ∀ js, (∃ result, condition env c o js = .ok result) ↔
      WellFormedCondition env o.collection c) (js : Joins) :
    (∃ result, optionalCondition env p o js = .ok result) ↔
      ∀ c, p = some c → WellFormedCondition env o.collection c := by
  cases p with
  | none => simp [optionalCondition]
  | some c =>
    simp only [Option.some.injEq, forall_eq', ← ih c rfl js, Prod.exists,
      optionalCondition_some_iff]
    constructor
    · rintro ⟨_, js', e, he, rfl⟩
      exact ⟨e, js', he⟩
    · rintro ⟨e, js', he⟩
      exact ⟨_, js', e, he, rfl⟩

/-- A condition compiles iff it is well formed, whatever joins are there already and under whatever
label its collection occurs. -/
theorem condition_succeeds_iff {env : Env} (hs : env.schema.Keyed) (c : Condition)
    (o : Occurrence) (js : Joins) :
    (∃ result, condition env c o js = .ok result) ↔ WellFormedCondition env o.collection c := by
  induction c using Condition.induction generalizing o js with
  | isNull column =>
    have hcolumn := columnExpr_succeeds_iff hs o column js
    simp only [Prod.exists] at hcolumn
    simp only [Prod.exists, condition_isNull_iff]
    constructor
    · rintro ⟨_, js', col, hcol, rfl⟩
      exact .isNull (hcolumn.mp ⟨col, js', hcol⟩)
    · intro hwf
      cases hwf with
      | isNull hresolves =>
        obtain ⟨col, js', hcol⟩ := hcolumn.mpr hresolves
        exact ⟨_, js', col, hcol, rfl⟩
  | compare column op rhs =>
    have hcolumn := columnExpr_succeeds_iff hs o column js
    simp only [Prod.exists] at hcolumn
    simp only [Prod.exists, condition_compare_iff]
    constructor
    · rintro ⟨_, js', known, v, col, rfl, hv, hcol, rfl⟩
      exact .compare (by rw [hv]; rfl) (hcolumn.mp ⟨col, js', hcol⟩)
    · intro hwf
      cases hwf with
      | compare hbound hresolves =>
        obtain ⟨v, hv⟩ := Option.isSome_iff_exists.mp hbound
        obtain ⟨col, js', hcol⟩ := hcolumn.mpr hresolves
        exact ⟨_, js', _, v, col, rfl, hv, hcol, rfl⟩
  | and operands ih =>
    have heach := conditions_succeed_iff (fun c hc js => ih c hc o js) js
    simp only [Prod.exists] at heach
    simp only [Prod.exists, condition_and_iff]
    constructor
    · rintro ⟨_, js', es, hes, rfl⟩
      exact .and (heach.mp ⟨es, js', hes⟩)
    · intro hwf
      cases hwf with
      | and hoperands =>
        obtain ⟨es, js', hes⟩ := heach.mpr hoperands
        exact ⟨_, js', es, hes, rfl⟩
  | or operands ih =>
    have heach := conditions_succeed_iff (fun c hc js => ih c hc o js) js
    simp only [Prod.exists] at heach
    simp only [Prod.exists, condition_or_iff]
    constructor
    · rintro ⟨_, js', es, hes, rfl⟩
      exact .or (heach.mp ⟨es, js', hes⟩)
    · intro hwf
      cases hwf with
      | or hoperands =>
        obtain ⟨es, js', hes⟩ := heach.mpr hoperands
        exact ⟨_, js', es, hes, rfl⟩
  | not operand ih =>
    have hinner := ih o js
    simp only [Prod.exists] at hinner
    simp only [Prod.exists, condition_not_iff]
    constructor
    · rintro ⟨_, js', e, he, rfl⟩
      exact .not (hinner.mp ⟨e, js', he⟩)
    · intro hwf
      cases hwf with
      | not hoperand =>
        obtain ⟨e, js', he⟩ := hinner.mpr hoperand
        exact ⟨_, js', e, he, rfl⟩
  | existsIn target predicate ih =>
    have hinner := fun inner : Occurrence =>
      optionalCondition_succeeds_iff (fun c hc js => ih c hc inner js) .empty
    simp only [Prod.exists] at hinner
    simp only [Prod.exists, condition_existsIn_iff]
    constructor
    · rintro ⟨_, _, id, r, c, es, inner, rfl, hr, hc, hties, hes, rfl, rfl⟩
      exact .existsIn ⟨hr, hc⟩ hties ((hinner _).mp ⟨es, inner, hes⟩)
    · intro hwf
      cases hwf with
      | existsIn hleads hties hpredicate =>
        obtain ⟨es, inner, hes⟩ := (hinner ⟨_, existsLabel o.label⟩).mpr hpredicate
        exact ⟨_, js, _, _, _, es, inner, rfl, hleads.1, hleads.2, hties, hes, rfl, rfl⟩

/-! ## Levels -/

theorem orderExprs_succeed_iff {env : Env} (hs : env.schema.Keyed) {o : Occurrence}
    {orders : List Order} (js : Joins) :
    (∃ result, orderExprs env o orders js = .ok result) ↔
      ∀ order ∈ orders, ∃ column, order.target = .column column ∧
        Resolves env o.collection column := by
  induction orders generalizing js with
  | nil => simp [orderExprs]
  | cons order orders ih =>
    have hfirst : (∃ entry js', orderExpr env o order js = .ok (entry, js')) ↔
        ∃ column, order.target = .column column ∧ Resolves env o.collection column := by
      constructor
      · rintro ⟨_, js', h⟩
        obtain ⟨c, e, hc, he, rfl⟩ := orderExpr_eq_ok_iff.mp h
        exact ⟨c, hc, (columnExpr_succeeds_iff hs o c js).mp ⟨(e, js'), he⟩⟩
      · rintro ⟨c, hc, hresolves⟩
        obtain ⟨⟨e, js'⟩, he⟩ := (columnExpr_succeeds_iff hs o c js).mpr hresolves
        exact ⟨_, js', orderExpr_eq_ok_iff.mpr ⟨c, e, hc, he, rfl⟩⟩
    rw [List.forall_mem_cons, ← hfirst]
    constructor
    · rintro ⟨⟨_, js'⟩, h⟩
      obtain ⟨entry, rest, between, he, hrest, rfl⟩ := orderExprs_cons_iff.mp h
      exact ⟨⟨entry, between, he⟩, (ih between).mp ⟨(rest, js'), hrest⟩⟩
    · rintro ⟨⟨entry, between, he⟩, hwf⟩
      obtain ⟨⟨rest, js'⟩, hrest⟩ := (ih between).mpr hwf
      exact ⟨_, orderExprs_cons_iff.mpr ⟨entry, rest, between, he, hrest, rfl⟩⟩

theorem entries_succeed_iff {env : Env} {o : Occurrence}
    {fields : List (String × Statement.Field)} :
    (∃ es, entries env fields o = .ok es) ↔
      ∀ f ∈ fields, ∃ e, entry env f.2 o f.1 = .ok e := by
  simp only [entries_eq_ok_iff]
  induction fields with
  | nil => simp
  | cons f rest ih =>
    simp only [List.forall₂_cons_left_iff, List.forall_mem_cons, ← ih]
    constructor
    · rintro ⟨_, e, es, ⟨-, he⟩, hes, rfl⟩
      exact ⟨⟨e.2, he⟩, es, hes⟩
    · rintro ⟨⟨e, he⟩, es, hes⟩
      exact ⟨_, (f.1, e), es, ⟨rfl, he⟩, hes, rfl⟩

/-- A level compiles iff its query is well formed, under whatever label and however it is tied to
its parent. -/
theorem level_succeeds_iff {env : Env} (hs : env.schema.Keyed) (q : Query) (o : Occurrence)
    (tie : List Sql.Expr) (single : Bool) :
    (∃ s, level env q o tie single = .ok s) ↔ WellFormedQuery env o.collection q := by
  induction q using Query.induction generalizing o tie single with
  | step q ih =>
    have hfilter := optionalCondition_succeeds_iff (o := o) (p := q.filter)
      (fun c _ js => condition_succeeds_iff hs c o js) .empty
    have hentry : ∀ f ∈ q.fields, (∃ e, entry env f.2 o f.1 = .ok e) ↔
        WellFormedField env o.collection f.2 := by
      rintro ⟨name, field⟩ hf
      cases field with
      | column column =>
        simp only [entry_column_iff]
        constructor
        · rintro ⟨_, hcolumn, -⟩
          exact .column hcolumn
        · intro hwf
          cases hwf with
          | column hcolumn => exact ⟨_, hcolumn, rfl⟩
      | relationship id inner =>
        simp only [entry_relationship_iff]
        constructor
        · rintro ⟨_, r, c, rows, hr, hc, hties, hrows, rfl⟩
          exact .relationship ⟨hr, hc⟩ hties ((ih name id inner hf _ _ _).mp ⟨rows, hrows⟩)
        · intro hwf
          cases hwf with
          | relationship hleads hties hinner =>
            obtain ⟨rows, hrows⟩ :=
              (ih name id inner hf ⟨_, nestedLabel o.label name⟩ _ _).mpr hinner
            exact ⟨_, _, _, rows, hleads.1, hleads.2, hties, hrows, rfl⟩
    simp only [level_eq_ok_iff]
    constructor
    · rintro ⟨_, hplain, es, conds, js, orders, js', hes, hconds, horders, -⟩
      exact .intro hplain (fun f hf => (hentry f hf).mp (entries_succeed_iff.mp ⟨es, hes⟩ f hf))
        (hfilter.mp ⟨(conds, js), hconds⟩)
        ((orderExprs_succeed_iff hs js).mp ⟨(orders, js'), horders⟩)
    · rintro ⟨hplain, hfields, hcondition, horder⟩
      obtain ⟨es, hes⟩ := entries_succeed_iff.mpr fun f hf => (hentry f hf).mpr (hfields f hf)
      obtain ⟨⟨conds, js⟩, hconds⟩ := hfilter.mpr hcondition
      obtain ⟨⟨orders, js'⟩, horders⟩ := (orderExprs_succeed_iff hs js).mpr horder
      exact ⟨_, hplain, es, conds, js, orders, js', hes, hconds, horders, rfl⟩

/-- **Main theorem.** In a schema that keeps every collection once and under its own name, as every
schema built by adding collections does, a statement compiles iff it is well formed. A handle that
no relationship has makes a statement ill formed, so nothing is assumed about handles. -/
theorem compile_succeeds_iff {schema : Schema} (hs : schema.Keyed) (s : Statement)
    (bindings : VariableSet) :
    (∃ plan, Plan.compile schema s bindings = .ok plan) ↔
      WellFormedStatement schema s bindings := by
  simp only [Plan.compile, Result.bind_eq_ok, Result.pure_eq_ok, compile_eq_ok_iff,
    WellFormedStatement]
  constructor
  · rintro ⟨_, _, ⟨root, rows, hroot, hrows, rfl⟩, -⟩
    exact ⟨root, hroot, (level_succeeds_iff hs s.query ⟨root, root.name⟩ [] false).mp ⟨rows, hrows⟩⟩
  · rintro ⟨root, hroot, hwf⟩
    obtain ⟨rows, hrows⟩ := (level_succeeds_iff hs s.query ⟨root, root.name⟩ [] false).mpr hwf
    exact ⟨_, _, ⟨root, rows, hroot, hrows, rfl⟩, rfl⟩

/-- Users of the shop by the name of their organisation, for an organisation given by a variable. -/
def usersOfOrg : Statement where
  collection := "users"
  query := {
    fields := [("id", .column "id")]
    aggregates := []
    filter := some (.compare ⟨"name", [⟨0⟩], .current⟩ (.known .eq) (.var "org"))
    orderBy := []
    limit := none
    offset := none }
  relationships := ⟨[("org", ⟨"org", "orgs", [("org_id", "id")], .object⟩)]⟩
  variableSets := none

theorem usersOfOrg_wellFormed_iff :
    WellFormedStatement shop usersOfOrg (.ofPairs [("org", .string "Acme")]) ∧
      ¬WellFormedStatement shop usersOfOrg .empty := by
  have hkeyed := (Schema.consistent_of_ofDocument ofDocument_shopDocument).toKeyed
  constructor
  · exact (compile_succeeds_iff hkeyed usersOfOrg _).mp ⟨_, rfl⟩
  · rw [← compile_succeeds_iff hkeyed]
    rintro ⟨_, h⟩
    cases h

end CollectionSql.Selection
