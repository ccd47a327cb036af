import CollectionSql.Proofs.Labels
import CollectionSql.Proofs.WellFormed

/-!
# What column references mean

A column of a statement is one of the current row, at the end of a path, of the parent row that a
child is tied to, or of the root row. Compilation turns it into a label and a column, and a label
means the table of the nearest SELECT that binds it. Labels only grow on the way in, so no inner
table takes the label of an outer one, and every reference finds the SELECT that it was made for.

Results:
* `Query.referents`: what the column references of a query mean, in the order of a walk.
* `hopKey_fields`: the key of a hop joins two fields.
* `Encloses.child`: what a SELECT binds hides nothing that is around it.
* `compile_wellScoped`: every reference of a compiled statement finds what it means.
-/

namespace CollectionSql.Statement

/-! ## Referents -/

/-- Whose row a reference reads. -/
inductive Place where
  | current
  | parent
  | root
deriving DecidableEq, Repr

/-- What a reference means: a column of a collection, read from a row. -/
structure Referent where
  place : Place
  collection : String
  column : String
deriving DecidableEq, Repr

/-- The collection that a relationship leads to. -/
def targetOf (t : Relationships) (id : RelationshipId) : String :=
  (t.get? id).elim "" Relationship.targetCollection

/-- The collection at the end of a path from a collection. -/
def pathEnd (t : Relationships) (here : String) (path : List RelationshipId) : String :=
  path.foldl (fun _ id => targetOf t id) here

/-- What a column reference means that is made from a row of the collection `here`. -/
def ColumnRef.referent (t : Relationships) (root here : String) (c : ColumnRef) : Referent :=
  match c.scope with
  | .current => ⟨.current, pathEnd t here c.path, c.name⟩
  | .root => ⟨.root, root, c.name⟩

/-- What the two sides of each pair mean by which a relationship ties a row to its parent. -/
def tieReferents (t : Relationships) (parent : String) (id : RelationshipId) : List Referent :=
  ((t.get? id).elim [] Relationship.columnMapping).flatMap fun pair =>
    [⟨.parent, parent, pair.1⟩, ⟨.current, targetOf t id, pair.2⟩]

section

variable (t : Relationships) (root : String)

mutual

/-- What the references of a condition over rows of a collection mean, from left to right. -/
def Condition.referents : Condition → String → List Referent
  | .isNull column, here => [column.referent t root here]
  | .compare column _ _, here => [column.referent t root here]
  | .and operands, here => Condition.referentsOfAll operands here
  | .or operands, here => Condition.referentsOfAll operands here
  | .not operand, here => operand.referents here
  | .existsIn (.related id) predicate, here =>
    tieReferents t here id ++ Condition.referentsOf? predicate (targetOf t id)
  | .existsIn (.unrelated _) _, _ => []

/-- What the references of a list of conditions mean. -/
def Condition.referentsOfAll : List Condition → String → List Referent
  | [], _ => []
  | c :: cs, here => c.referents here ++ Condition.referentsOfAll cs here

/-- What the references of a condition mean that may be absent. -/
def Condition.referentsOf? : Option Condition → String → List Referent
  | none, _ => []
  | some c, here => c.referents here

end

/-- What a criterion of an ordering means. -/
def Order.referents (order : Order) (here : String) : List Referent :=
  match order.target with
  | .column c => [c.referent t root here]
  | _ => []

mutual

/-- What the references of a query over a collection mean: those of its entries, those that tie its
rows to their parent, those of its filter and those of its ordering. -/
def Query.referents : Query → String → List Referent → List Referent
  | ⟨fields, _, filter, orderBy, _, _⟩, here, tie =>
    Query.referentsOfFields fields here ++ (tie ++ Condition.referentsOf? t root filter here) ++
      orderBy.flatMap (Order.referents t root · here)

/-- What the references of the entries of a row mean. -/
def Query.referentsOfFields : List (String × Field) → String → List Referent
  | [], _ => []
  | (_, field) :: rest, here => field.referents here ++ Query.referentsOfFields rest here

/-- What the references of one entry of a row mean. -/
def Field.referents : Field → String → List Referent
  | .column name, here => [⟨.current, here, name⟩]
  | .relationship id query, here => query.referents (targetOf t id) (tieReferents t here id)

end

end

theorem Query.referents_eq (t : Relationships) (root here : String) (q : Query)
    (tie : List Referent) :
    q.referents t root here tie = Query.referentsOfFields t root q.fields here ++
      (tie ++ Condition.referentsOf? t root q.filter here) ++
      q.orderBy.flatMap (Order.referents t root · here) := by
  cases q
  rfl

end CollectionSql.Statement

namespace CollectionSql

/-- What the column references of a statement mean, in the order in which a walk over the compiled
statement meets them. -/
def Statement.referents (s : Statement) : List Statement.Referent :=
  s.query.referents s.relationships s.collection s.collection []

end CollectionSql

namespace CollectionSql.Selection

open Statement (ColumnRef Condition Order Place Query Referent)

/-! ## Finding what is meant -/

/-- The SELECT that binds the row of a place, with those around it, as seen from inside the SELECT
of the current row. Around the SELECT of the root row there is only the one that holds the
answer. -/
def placeScopes : Place → Sql.Scopes → Sql.Scopes
  | .current, around => around
  | .parent, around => around.tail
  | .root, around => around.drop (around.length - 2)

/-- A label is bound to a collection of the schema that has the column as a field. -/
structure BindsField (schema : Schema) (tables : List (String × String)) (label collection : String)
    (column : String) : Prop where
  bound : (label, collection) ∈ tables
  field : ∃ c, schema.collections.get? collection = some c ∧ column ∈ c.fieldNames

/-- A qualified column finds what it means: the nearest SELECT that binds its label is the one of
the row that is meant, and there the label is bound to the collection that is meant. -/
structure RefersTo (schema : Schema) (reference : Sql.Column × Sql.Scopes)
    (referent : Referent) : Prop where
  column_eq : reference.1.column = referent.column
  nearest : reference.2.binding? reference.1.table =
    some (placeScopes referent.place reference.2)
  binds : ∃ scope outer, placeScopes referent.place reference.2 = scope :: outer ∧
    BindsField schema scope.tables reference.1.table referent.collection referent.column

/-- What a walk may meet besides qualified columns. The two sides of a join condition are fields of
tables up to its own. A grouping key is a field of a table of its own SELECT, or the row number if
the table has no primary key. An unqualified name is the one column of the sub-select that its own
SELECT selects from. -/
def OtherwiseScoped (schema : Schema) : Sql.Visit → Prop
  | .select _ => True
  | .column _ _ => True
  | .ident name around => ∃ scope outer, around = scope :: outer ∧ scope.columns = [name]
  | .join j tables => tables.getLast? = some j.item ∧
      (∃ collection, BindsField schema tables j.lhs.table collection j.lhs.column) ∧
      ∃ collection, BindsField schema tables j.rhs.table collection j.rhs.column
  | .key key around => ∃ label column scope outer c, key = .col label column ∧
      around = scope :: outer ∧ around.binding? label = some around ∧
      (label, c.name) ∈ scope.tables ∧ schema.collections.get? c.name = some c ∧
      (column ∈ c.fieldNames ∨ c.primaryKeys = [] ∧ column = "rowid")

/-- The qualified columns that a walk meets outside joins and keys mean the given referents, and
everything else that it meets is in scope. -/
structure WellScoped (schema : Schema) (visits : List Sql.Visit) (referents : List Referent) :
    Prop where
  refers : List.Forall₂ (RefersTo schema) (visits.filterMap Sql.Visit.reference?) referents
  others : ∀ v ∈ visits, OtherwiseScoped schema v

theorem wellScoped_nil (schema : Schema) : WellScoped schema [] [] :=
  ⟨.nil, fun _ h => absurd h List.not_mem_nil⟩

theorem WellScoped.append {schema : Schema} {vs vs' : List Sql.Visit} {rs rs' : List Referent}
    (h : WellScoped schema vs rs) (h' : WellScoped schema vs' rs') :
    WellScoped schema (vs ++ vs') (rs ++ rs') := by
  refine ⟨?_, fun v hv => ?_⟩
  · rw [List.filterMap_append]
    exact List.rel_append h.refers h'.refers
  · rcases List.mem_append.mp hv with hv | hv
    · exact h.others v hv
    · exact h'.others v hv

/-- A part of a walk that meets no qualified column outside joins and keys. -/
theorem wellScoped_of_others {schema : Schema} {vs : List Sql.Visit}
    (hnone : ∀ v ∈ vs, v.reference? = none) (hothers : ∀ v ∈ vs, OtherwiseScoped schema v) :
    WellScoped schema vs [] := by
  refine ⟨?_, hothers⟩
  rw [List.filterMap_eq_nil_iff.mpr hnone]
  exact .nil

theorem WellScoped.cons {schema : Schema} {v : Sql.Visit} {vs : List Sql.Visit}
    {rs : List Referent} (hv : v.reference? = none) (hother : OtherwiseScoped schema v)
    (h : WellScoped schema vs rs) : WellScoped schema (v :: vs) rs := by
  have hsingle : WellScoped schema [v] [] :=
    wellScoped_of_others (by simpa using hv) (by simpa using hother)
  exact hsingle.append h

theorem wellScoped_column {schema : Schema} {c : Sql.Column} {around : Sql.Scopes} {r : Referent}
    (h : RefersTo schema (c, around) r) : WellScoped schema [.column c around] [r] :=
  ⟨.cons h .nil, by simp [OtherwiseScoped]⟩

/-! ## Joins in order -/

/-- The collection of an occurrence is one of the schema. -/
def Occurrence.In (o : Occurrence) (schema : Schema) : Prop :=
  schema.collections.get? o.collection.name = some o.collection

theorem Occurrence.in_of_get? {schema : Schema} (hs : schema.Keyed) {name : String}
    {c : Collection} (hc : schema.collections.get? name = some c) (label : String) :
    Occurrence.In ⟨c, label⟩ schema := by
  rw [Occurrence.In, hs.name_of_get? hc]
  exact hc

/-- The key of a hop joins a field of the one collection with a field of the other. -/
theorem hopKey_fields {schema : Schema} (hs : schema.Consistent) {r : Relationship}
    {c target : Collection} {key : HopKey} (hc : schema.collections.get? c.name = some c)
    (htarget : schema.collections.get? target.name = some target)
    (hkey : chooseKey schema r c target = some key) (here there : String) :
    ∃ f f', f ∈ c.fieldNames ∧ f' ∈ target.fieldNames ∧
      (key.columns here there = (⟨here, f⟩, ⟨there, f'⟩) ∨
        key.columns here there = (⟨there, f'⟩, ⟨here, f⟩)) := by
  have hvalues := Schema.mem_values_of_get? hc
  have htvalues := Schema.mem_values_of_get? htarget
  rcases (mem_hopKeys_iff hs.toKeyed htvalues).mp (mem_hopKeys_of_chooseKey hkey) with
    ⟨k, hk, hto, rfl⟩ | ⟨k, hk, hto, rfl⟩
  · obtain ⟨t, ht, hcolumn⟩ := hs.target c hvalues k hk
    rw [hto, htarget] at ht
    cases ht
    exact ⟨k.1, k.2.column, (hs.keysAreFields c hvalues).foreign k hk, hcolumn, .inl rfl⟩
  · obtain ⟨t, ht, hcolumn⟩ := hs.target target htvalues k hk
    rw [hto, hc] at ht
    cases ht
    exact ⟨k.2.column, k.1, hcolumn, (hs.keysAreFields target htvalues).foreign k hk, .inr rfl⟩

/-- What joins bind after a table. -/
def joinTables (table : String × String) (js : List Sql.Join) : List (String × String) :=
  table :: js.map Sql.Join.item

/-- Joins after a table, each of which refers only to tables up to its own. -/
def JoinsScoped (schema : Schema) (table : String × String) (js : List Sql.Join) : Prop :=
  ∀ v ∈ Sql.Join.visits js [table], OtherwiseScoped schema v

theorem visits_concat (js : List Sql.Join) (j : Sql.Join) (tables : List (String × String)) :
    Sql.Join.visits (js ++ [j]) tables =
      Sql.Join.visits js tables ++ [.join j (tables ++ js.map Sql.Join.item ++ [j.item])] := by
  induction js generalizing tables with
  | nil => simp [Sql.Join.visits]
  | cons first rest ih => simp [Sql.Join.visits, ih]

theorem joinTables_insert_subset (table : String × String) (js : Joins) (j : Sql.Join)
    (fansOut : Bool) :
    joinTables table js.list ⊆ joinTables table (js.insert j fansOut).list := by
  intro entry h
  simp only [joinTables, List.mem_cons, List.mem_map, mem_insert_list] at h ⊢
  rcases h with h | ⟨k, hk, rfl⟩
  · exact .inl h
  · exact .inr ⟨k, .inl hk, rfl⟩

theorem joinTables_insertAll_subset (table : String × String) (js : Joins) (hops : List Hop) :
    joinTables table js.list ⊆ joinTables table (js.insertAll hops).list := by
  induction hops generalizing js with
  | nil => exact List.Subset.refl _
  | cons h rest ih =>
    exact List.Subset.trans (joinTables_insert_subset table js h.join h.fansOut) (ih _)

/-- The occurrence is of the schema, and bound by the joins after a table. -/
structure Joined (schema : Schema) (table : String × String) (js : Joins) (o : Occurrence) :
    Prop where
  mem : o.In schema
  bound : (o.label, o.collection.name) ∈ joinTables table js.list

theorem Joined.insertAll {schema : Schema} {table : String × String} {js : Joins} {o : Occurrence}
    (h : Joined schema table js o) (hops : List Hop) : Joined schema table (js.insertAll hops) o :=
  ⟨h.mem, joinTables_insertAll_subset table js hops h.bound⟩

section

variable {env : Env} (hs : env.schema.Consistent) {table : String × String}

include hs

/-- A hop from a bound occurrence refers only to it and to its own table. -/
theorem insert_hop_scoped {o : Occurrence} {id : RelationshipId} {h : Hop} {js : Joins}
    (hh : hop? env o id = some h) (ho : Joined env.schema table js o)
    (hjs : JoinsScoped env.schema table js.list) :
    JoinsScoped env.schema table (js.insert h.join h.fansOut).list ∧
      Joined env.schema table (js.insert h.join h.fansOut) h.target := by
  obtain ⟨r, target, key, -, htarget, hkey, rfl⟩ := hop?_eq_some_iff.mp hh
  have hname := hs.toKeyed.name_of_get? htarget
  rw [← hname] at htarget
  have hown : (joinLabel o.label r.name, target.name) ∈
      joinTables table (js.insert (Hop.over o r target key).join
        (Hop.over o r target key).fansOut).list := by
    refine List.mem_cons_of_mem _ (List.mem_map.mpr ⟨(Hop.over o r target key).join, ?_, rfl⟩)
    exact mem_insert_list.mpr (.inr rfl)
  refine ⟨?_, htarget, hown⟩
  unfold Joins.insert
  by_cases hmem : (Hop.over o r target key).join ∈ js.list
  · rw [if_pos hmem]
    exact hjs
  · rw [if_neg hmem, JoinsScoped, visits_concat]
    intro v hv
    rcases List.mem_append.mp hv with hv | hv
    · exact hjs v hv
    rw [List.mem_singleton.mp hv]
    obtain ⟨f, f', hf, hf', hcolumns⟩ :=
      hopKey_fields hs ho.mem htarget hkey o.label (joinLabel o.label r.name)
    have hhere : BindsField env.schema
        ([table] ++ js.list.map Sql.Join.item ++ [(Hop.over o r target key).join.item])
        o.label o.collection.name f :=
      ⟨List.mem_append_left _ ho.bound, o.collection, ho.mem, hf⟩
    have hthere : BindsField env.schema
        ([table] ++ js.list.map Sql.Join.item ++ [(Hop.over o r target key).join.item])
        (joinLabel o.label r.name) target.name f' :=
      ⟨List.mem_append_right _ (List.mem_singleton.mpr rfl), target, htarget, hf'⟩
    refine ⟨List.getLast?_concat, ?_⟩
    rcases hcolumns with hcolumns | hcolumns
    · simp only [Hop.over, hcolumns] at hhere hthere ⊢
      exact ⟨⟨_, hhere⟩, ⟨_, hthere⟩⟩
    · simp only [Hop.over, hcolumns] at hhere hthere ⊢
      exact ⟨⟨_, hthere⟩, ⟨_, hhere⟩⟩

theorem insertAll_hops_scoped {path : List RelationshipId} {o : Occurrence} {hops : List Hop}
    {js : Joins} (hpath : hops? env path o = some hops) (ho : Joined env.schema table js o)
    (hjs : JoinsScoped env.schema table js.list) :
    JoinsScoped env.schema table (js.insertAll hops).list ∧
      Joined env.schema table (js.insertAll hops) (reached o hops) := by
  induction path generalizing o hops js with
  | nil =>
    cases hpath
    exact ⟨hjs, ho⟩
  | cons id ids ih =>
    obtain ⟨h, rest, hh, hrest, rfl⟩ := hops?_cons_iff.mp hpath
    obtain ⟨hjs', ho'⟩ := insert_hop_scoped hs hh ho hjs
    rw [Joins.insertAll_cons, reached_cons]
    exact ih hrest ho' hjs'

theorem insertAll_paths_scoped {paths : List (List RelationshipId)} {o : Occurrence} {js : Joins}
    (hpaths : Followable env o paths) (ho : Joined env.schema table js o)
    (hjs : JoinsScoped env.schema table js.list) :
    JoinsScoped env.schema table (js.insertAll (paths.flatMap (pathHops env o))).list ∧
      ∀ p ∈ paths, Joined env.schema table (js.insertAll (paths.flatMap (pathHops env o)))
        (reached o (pathHops env o p)) := by
  induction paths generalizing js with
  | nil => exact ⟨hjs, fun p hp => absurd hp List.not_mem_nil⟩
  | cons path rest ih =>
    obtain ⟨hfirst, hothers⟩ := List.forall_mem_cons.mp hpaths
    obtain ⟨hjs', hend⟩ := insertAll_hops_scoped hs hfirst ho hjs
    obtain ⟨hscoped, hends⟩ := ih hothers (ho.insertAll _) hjs'
    rw [List.flatMap_cons, Joins.insertAll_append]
    exact ⟨hscoped, List.forall_mem_cons.mpr ⟨hend.insertAll _, hends⟩⟩

end

/-! ## What is around a SELECT -/

/-- What a level binds before and after its joins. -/
def levelScope (env : Env) (o : Occurrence) (paths : List (List RelationshipId)) : Sql.Scope :=
  o.scope (.ofPaths env o paths)

/-- The joined tables of a level have longer labels than the table that they start from. -/
theorem length_le_of_mem_labels {env : Env} {o : Occurrence} {paths : List (List RelationshipId)}
    (hpaths : Followable env o paths) {label : String}
    (h : label ∈ (levelScope env o paths).labels) : o.label.length ≤ label.length := by
  rw [levelScope, Occurrence.scope_labels] at h
  rcases List.mem_cons.mp h with rfl | h
  · exact Nat.le_refl _
  · obtain ⟨j, hj, rfl⟩ := List.mem_map.mp h
    obtain ⟨q, id, before, hop, -, hbefore, hhop, rfl⟩ := (mem_joins_iff hpaths).mp hj
    rw [join_label hbefore hhop, String.length_append]
    omega

theorem binding?_of_mem {s : Sql.Scope} {outer : Sql.Scopes} {label : String}
    (h : label ∈ s.labels) : Sql.Scopes.binding? (s :: outer) label = some (s :: outer) := by
  rw [Sql.Scopes.binding?, if_pos h]

theorem binding?_of_not_mem {s : Sql.Scope} {outer : Sql.Scopes} {label : String}
    (h : label ∉ s.labels) :
    Sql.Scopes.binding? (s :: outer) label = Sql.Scopes.binding? outer label := by
  rw [Sql.Scopes.binding?, if_neg h]

theorem mem_labels_of_mem_tables {s : Sql.Scope} {label table : String}
    (h : (label, table) ∈ s.tables) : label ∈ s.labels :=
  List.mem_map.mpr ⟨_, h, rfl⟩

/-- What holds of the SELECTs around a place inside the SELECT of an occurrence: that SELECT is the
innermost and binds the occurrence, and the label of the root is still that of the root. -/
structure Encloses (env : Env) (o : Occurrence) (around : Sql.Scopes) : Prop where
  mem : o.In env.schema
  bound : ∃ scope outer, around = scope :: outer ∧ (o.label, o.collection.name) ∈ scope.tables
  root_mem : (Occurrence.root env).In env.schema
  root_le : env.root.name.length ≤ o.label.length
  two_le : 2 ≤ around.length
  root_bound : ∃ scope outer, around.drop (around.length - 2) = scope :: outer ∧
    (env.root.name, env.root.name) ∈ scope.tables
  root_nearest : around.binding? env.root.name = some (around.drop (around.length - 2))

/-- A SELECT whose label is longer than that of its parent hides nothing that is around it. -/
theorem Encloses.child {env : Env} {o child : Occurrence} {around : Sql.Scopes}
    (h : Encloses env o around) (hchild : child.In env.schema)
    (hlabel : o.label.length < child.label.length) {paths : List (List RelationshipId)}
    (hpaths : Followable env child paths) :
    Encloses env child (levelScope env child paths :: around) ∧
      Sql.Scopes.binding? (levelScope env child paths :: around) o.label = some around := by
  have hnot : ∀ label : String, label.length ≤ o.label.length →
      label ∉ (levelScope env child paths).labels := by
    intro label hle hmem
    have := length_le_of_mem_labels hpaths hmem
    omega
  have hdrop : ∀ scope : Sql.Scope,
      (scope :: around).drop ((scope :: around).length - 2) = around.drop (around.length - 2) := by
    intro scope
    have hlength : (scope :: around).length - 2 = (around.length - 2) + 1 := by
      have := h.two_le
      simp only [List.length_cons]
      omega
    rw [hlength, List.drop_succ_cons]
  constructor
  · refine ⟨hchild, ⟨_, _, rfl, List.mem_cons_self⟩, h.root_mem, ?_, ?_, ?_, ?_⟩
    · have := h.root_le
      omega
    · have := h.two_le
      simp only [List.length_cons]
      omega
    · rw [hdrop]
      exact h.root_bound
    · rw [hdrop, binding?_of_not_mem (hnot _ h.root_le)]
      exact h.root_nearest
  · obtain ⟨scope, outer, rfl, hbound⟩ := h.bound
    rw [binding?_of_not_mem (hnot _ (Nat.le_refl _)),
      binding?_of_mem (mem_labels_of_mem_tables hbound)]

theorem length_lt_nestedLabel (parent field : String) :
    parent.length < (nestedLabel parent field).length := length_lt_joinLabel parent field

theorem length_lt_existsLabel (current : String) :
    current.length < (existsLabel current).length := by
  simp only [existsLabel, String.length_append, show "_exists".length = 7 from rfl]
  omega

/-! ## References -/

theorem targetOf_eq {env : Env} (hs : env.schema.Keyed) {id : RelationshipId} {r : Relationship}
    {c : Collection} (hr : env.relationships.get? id = some r)
    (hc : env.schema.collections.get? r.targetCollection = some c) :
    Statement.targetOf env.relationships id = c.name := by
  rw [Statement.targetOf, hr, hs.name_of_get? hc]
  rfl

section

variable {env : Env} (hs : env.schema.Consistent)

include hs

/-- The collection at the end of followed hops is the one that the path leads to. -/
theorem reached_name {path : List RelationshipId} {o : Occurrence} {hops : List Hop}
    (h : hops? env path o = some hops) :
    (reached o hops).collection.name =
      Statement.pathEnd env.relationships o.collection.name path := by
  induction path generalizing o hops with
  | nil =>
    cases h
    rfl
  | cons id ids ih =>
    obtain ⟨first, rest, hfirst, hrest, rfl⟩ := hops?_cons_iff.mp h
    obtain ⟨r, target, key, hr, htarget, -, rfl⟩ := hop?_eq_some_iff.mp hfirst
    have hend : Statement.pathEnd env.relationships o.collection.name (id :: ids) =
        Statement.pathEnd env.relationships (Statement.targetOf env.relationships id) ids := rfl
    rw [reached_cons, ih hrest, hend, targetOf_eq hs.toKeyed hr htarget]
    rfl

/-- The joins of a level refer only to tables up to their own, and the end of every path is
bound. -/
theorem levelScope_scoped {o : Occurrence} (ho : o.In env.schema)
    {paths : List (List RelationshipId)} (hpaths : Followable env o paths) :
    JoinsScoped env.schema (o.label, o.collection.name) (Joins.ofPaths env o paths).list ∧
      ∀ p ∈ paths, Joined env.schema (o.label, o.collection.name) (.ofPaths env o paths)
        (reached o (pathHops env o p)) :=
  insertAll_paths_scoped hs hpaths ⟨ho, List.mem_cons_self⟩
    fun _ hv => absurd hv List.not_mem_nil

/-- A column reference of a level finds what it means. -/
theorem columnExpr_wellScoped {o : Occurrence} {c : ColumnRef} {js js' : Joins} {e : Sql.Expr}
    (h : columnExpr env o c js = .ok (e, js')) {paths : List (List RelationshipId)}
    (hpaths : Followable env o paths) (hmem : c.joinPath ∈ paths) {outer : Sql.Scopes}
    (henc : Encloses env o (levelScope env o paths :: outer)) :
    WellScoped env.schema (e.visits (levelScope env o paths :: outer))
      [c.referent env.relationships env.root.name o.collection.name] := by
  obtain ⟨target, hops, href, hname, rfl, -⟩ := columnExpr_eq_ok_iff.mp h
  rw [Sql.Expr.visits_col]
  apply wellScoped_column
  unfold reference? at href
  unfold ColumnRef.referent
  cases hscope : c.scope with
  | current =>
    rw [hscope] at href
    obtain ⟨_, hhops, heq⟩ := Option.map_eq_some_iff.mp href
    obtain ⟨rfl, rfl⟩ := Prod.mk.inj heq
    rw [ColumnRef.joinPath, hscope] at hmem
    have hjoined := (levelScope_scoped hs henc.mem hpaths).2 c.path hmem
    rw [pathHops, hhops, Option.getD_some] at hjoined
    refine ⟨rfl, binding?_of_mem (mem_labels_of_mem_tables hjoined.bound), _, _, rfl, ?_⟩
    rw [← reached_name hs hhops]
    exact ⟨hjoined.bound, _, hjoined.mem, hname⟩
  | root =>
    rw [hscope] at href
    cases href
    obtain ⟨scope, rest, hdrop, hbound⟩ := henc.root_bound
    exact ⟨rfl, henc.root_nearest, scope, rest, hdrop, hbound, env.root, henc.root_mem, hname⟩

end

/-- The two sides of each pair that ties a child to its parent find what they mean. -/
theorem ties_wellScoped {env : Env} (hs : env.schema.Consistent) {o : Occurrence}
    {around : Sql.Scopes} (henc : Encloses env o around) {id : RelationshipId} {r : Relationship}
    (hr : env.relationships.get? id = some r) {c : Collection}
    (hc : env.schema.collections.get? r.targetCollection = some c)
    (hties : Ties r o.collection c) {label : String} {scope : Sql.Scope}
    (hchild : Encloses env ⟨c, label⟩ (scope :: around))
    (hparent : Sql.Scopes.binding? (scope :: around) o.label = some around) :
    WellScoped env.schema
      (Sql.Expr.visitsOfAll (r.columnMapping.map (tieExpr o.label label)) (scope :: around))
      (Statement.tieReferents env.relationships o.collection.name id) := by
  rw [Statement.tieReferents, targetOf_eq hs.toKeyed hr hc, hr, Option.elim_some]
  obtain ⟨pscope, outer, rfl, hpbound⟩ := henc.bound
  obtain ⟨cscope, couter, hcscope, hcbound⟩ := hchild.bound
  obtain ⟨rfl, rfl⟩ := List.cons.inj hcscope
  unfold Ties at hties
  generalize r.columnMapping = mapping at hties ⊢
  induction mapping with
  | nil => exact wellScoped_nil _
  | cons pair rest ih =>
    obtain ⟨⟨hfirst, hsecond⟩, hrest⟩ := List.forall_mem_cons.mp hties
    rw [List.map_cons, Sql.Expr.visitsOfAll, tieExpr, Sql.Expr.visits, Sql.Expr.visits_col,
      Sql.Expr.visits_col, List.flatMap_cons]
    refine WellScoped.append (.append (wellScoped_column ?_) (wellScoped_column ?_)) (ih hrest)
    · exact ⟨rfl, hparent, pscope, outer, rfl, hpbound, o.collection, henc.mem, hfirst⟩
    · exact ⟨rfl, binding?_of_mem (mem_labels_of_mem_tables hcbound), scope, _, rfl, hcbound, c,
        hchild.mem, hsecond⟩

/-! ## Conditions -/

section

variable {env : Env} {o : Occurrence} {paths : List (List RelationshipId)} {outer : Sql.Scopes}

theorem conditions_wellScoped {cs : List Condition}
    (ih : ∀ c ∈ cs, ∀ js e js', condition env c o js = .ok (e, js') → c.paths ⊆ paths →
      WellScoped env.schema (e.visits (levelScope env o paths :: outer))
        (c.referents env.relationships env.root.name o.collection.name))
    {js js' : Joins} {es : List Sql.Expr} (h : conditions env cs o js = .ok (es, js'))
    (hsub : Condition.pathsOfAll cs ⊆ paths) :
    WellScoped env.schema (Sql.Expr.visitsOfAll es (levelScope env o paths :: outer))
      (Condition.referentsOfAll env.relationships env.root.name cs o.collection.name) := by
  induction cs generalizing js es with
  | nil =>
    rw [(conditions_nil_iff.mp h).1]
    exact wellScoped_nil _
  | cons c cs ihcs =>
    obtain ⟨ihc, ihrest⟩ := List.forall_mem_cons.mp ih
    obtain ⟨e, rest, between, he, hrest, rfl⟩ := conditions_cons_iff.mp h
    obtain ⟨hfirst, hothers⟩ := List.append_subset.mp hsub
    rw [Sql.Expr.visitsOfAll, Condition.referentsOfAll]
    exact (ihc _ _ _ he hfirst).append (ihcs ihrest hrest hothers)

theorem optionalCondition_wellScoped {p : Option Condition}
    (ih : ∀ c, p = some c → ∀ js e js', condition env c o js = .ok (e, js') → c.paths ⊆ paths →
      WellScoped env.schema (e.visits (levelScope env o paths :: outer))
        (c.referents env.relationships env.root.name o.collection.name))
    {js js' : Joins} {es : List Sql.Expr} (h : optionalCondition env p o js = .ok (es, js'))
    (hsub : Condition.pathsOf? p ⊆ paths) :
    WellScoped env.schema (Sql.Expr.visitsOfAll es (levelScope env o paths :: outer))
      (Condition.referentsOf? env.relationships env.root.name p o.collection.name) := by
  cases p with
  | none =>
    rw [(optionalCondition_none_iff.mp h).1]
    exact wellScoped_nil _
  | some c =>
    obtain ⟨e, he, rfl⟩ := optionalCondition_some_iff.mp h
    rw [Sql.Expr.visitsOfAll, Sql.Expr.visitsOfAll, List.append_nil, Condition.referentsOf?]
    exact ih c rfl _ _ _ he hsub

end

theorem joins_wellScoped {schema : Schema} {table : String × String} {js : List Sql.Join}
    (h : JoinsScoped schema table js) : WellScoped schema (Sql.Join.visits js [table]) [] := by
  refine wellScoped_of_others ?_ h
  generalize [table] = tables
  clear h
  induction js generalizing tables with
  | nil => exact fun _ h => absurd h List.not_mem_nil
  | cons j js ih => exact List.forall_mem_cons.mpr ⟨rfl, ih _⟩

/-- The references of a condition find what they mean, among the tables of its level and of those
around it. -/
theorem condition_wellScoped {env : Env} (hs : env.schema.Consistent) (c : Condition)
    {o : Occurrence} {js js' : Joins} {e : Sql.Expr} (h : condition env c o js = .ok (e, js'))
    {paths : List (List RelationshipId)} (hpaths : Followable env o paths)
    (hsub : c.paths ⊆ paths) {outer : Sql.Scopes}
    (henc : Encloses env o (levelScope env o paths :: outer)) :
    WellScoped env.schema (e.visits (levelScope env o paths :: outer))
      (c.referents env.relationships env.root.name o.collection.name) := by
  induction c using Condition.induction generalizing o js e js' paths outer with
  | isNull column =>
    obtain ⟨col, hcol, rfl⟩ := condition_isNull_iff.mp h
    rw [Sql.Expr.visits]
    exact columnExpr_wellScoped hs hcol hpaths (hsub List.mem_cons_self) henc
  | compare column op rhs =>
    obtain ⟨known, v, col, -, -, hcol, rfl⟩ := condition_compare_iff.mp h
    rw [Sql.Expr.visits, Sql.Expr.visits, List.append_nil]
    exact columnExpr_wellScoped hs hcol hpaths (hsub List.mem_cons_self) henc
  | and operands ih =>
    obtain ⟨es, hes, rfl⟩ := condition_and_iff.mp h
    rw [Sql.Expr.visits, Condition.referents]
    exact conditions_wellScoped (fun c hc _ _ _ h hsub => ih c hc h hpaths hsub henc) hes hsub
  | or operands ih =>
    obtain ⟨es, hes, rfl⟩ := condition_or_iff.mp h
    rw [Sql.Expr.visits, Condition.referents]
    exact conditions_wellScoped (fun c hc _ _ _ h hsub => ih c hc h hpaths hsub henc) hes hsub
  | not operand ih =>
    obtain ⟨e', he', rfl⟩ := condition_not_iff.mp h
    rw [Sql.Expr.visits, Condition.referents]
    exact ih he' hpaths hsub henc
  | existsIn target predicate ih =>
    obtain ⟨id, r, c, es, inner, rfl, hr, hc, hties, hes, rfl, -⟩ := condition_existsIn_iff.mp h
    obtain ⟨hinner, hjs⟩ := optionalCondition_joins hes
    have hin := Occurrence.in_of_get? hs.toKeyed hc (existsLabel o.label)
    obtain ⟨hchild, hparent⟩ := henc.child hin (length_lt_existsLabel o.label) hinner
    have hscope : Occurrence.scope ⟨c, existsLabel o.label⟩ inner =
        levelScope env ⟨c, existsLabel o.label⟩ (Condition.pathsOf? predicate) := by
      rw [hjs]
      rfl
    have hjoins := joins_wellScoped (levelScope_scoped hs hin hinner).1
    have hpredicate := optionalCondition_wellScoped
      (fun d hd _ _ _ h hsub => ih d hd h hinner hsub hchild) hes (List.Subset.refl _)
    have htie := ties_wellScoped hs henc hr hc hties hchild hparent
    rw [existsExpr_visits, Sql.Expr.visitsOfAll_append, hscope, Condition.referents,
      targetOf_eq hs.toKeyed hr hc, hjs]
    exact .cons rfl trivial (hjoins.append (htie.append hpredicate))

/-! ## Levels -/

theorem orderExprs_wellScoped {env : Env} (hs : env.schema.Consistent) {o : Occurrence}
    {orders : List Order} {js js' : Joins} {es : List (Sql.Expr × Direction)}
    (h : orderExprs env o orders js = .ok (es, js')) {paths : List (List RelationshipId)}
    (hpaths : Followable env o paths) (hsub : orders.flatMap Order.paths ⊆ paths)
    {outer : Sql.Scopes} (henc : Encloses env o (levelScope env o paths :: outer)) :
    WellScoped env.schema (Sql.Select.visitsOfOrders es (levelScope env o paths :: outer))
      (orders.flatMap (Order.referents env.relationships env.root.name · o.collection.name)) := by
  induction orders generalizing js es with
  | nil =>
    rw [(orderExprs_nil_iff.mp h).1]
    exact wellScoped_nil _
  | cons order orders ih =>
    obtain ⟨entry, rest, between, hfirst, hrest, rfl⟩ := orderExprs_cons_iff.mp h
    obtain ⟨c, e, hc, he, rfl⟩ := orderExpr_eq_ok_iff.mp hfirst
    rw [List.flatMap_cons] at hsub
    obtain ⟨hown, hothers⟩ := List.append_subset.mp hsub
    have hpath : c.joinPath ∈ paths := hown (by rw [Order.paths, hc]; exact List.mem_cons_self)
    rw [Sql.Select.visitsOfOrders, List.flatMap_cons, Order.referents, hc]
    exact (columnExpr_wellScoped hs he hpaths hpath henc).append (ih hrest hothers)

/-- The columns that tell the rows of an occurrence apart are in scope as grouping keys. -/
theorem rowKey_wellScoped {env : Env} (hs : env.schema.Consistent) {o : Occurrence}
    {around : Sql.Scopes} (henc : Encloses env o around) (fansOut : Bool) :
    WellScoped env.schema ((if fansOut then o.rowKey else []).map (.key · around)) [] := by
  obtain ⟨scope, outer, rfl, hbound⟩ := henc.bound
  have hnearest : Sql.Scopes.binding? (scope :: outer) o.label = some (scope :: outer) :=
    binding?_of_mem (mem_labels_of_mem_tables hbound)
  have hkey : ∀ key ∈ o.rowKey, OtherwiseScoped env.schema (.key key (scope :: outer)) := by
    intro key hkey
    unfold Occurrence.rowKey at hkey
    split at hkey
    · next hempty =>
      rw [List.mem_singleton.mp hkey]
      exact ⟨o.label, "rowid", scope, outer, o.collection, rfl, rfl, hnearest, hbound, henc.mem,
        .inr ⟨List.isEmpty_iff.mp hempty, rfl⟩⟩
    · obtain ⟨column, hcolumn, rfl⟩ := List.mem_map.mp hkey
      have hfield := (hs.keysAreFields _ (Schema.mem_values_of_get? henc.mem)).primary _ hcolumn
      exact ⟨o.label, column, scope, outer, o.collection, rfl, rfl, hnearest, hbound, henc.mem,
        .inl hfield⟩
  refine wellScoped_of_others (fun v hv => ?_) fun v hv => ?_
  · obtain ⟨key, -, rfl⟩ := List.mem_map.mp hv
    rfl
  · obtain ⟨key, hmem, rfl⟩ := List.mem_map.mp hv
    cases fansOut with
    | false => exact absurd hmem List.not_mem_nil
    | true => exact hkey key hmem

theorem entries_wellScoped {env : Env} {o : Occurrence} {fields : List (String × Statement.Field)}
    {around : Sql.Scopes}
    (ih : ∀ f ∈ fields, ∀ e, entry env f.2 o f.1 = .ok e →
      WellScoped env.schema (e.visits around)
        (f.2.referents env.relationships env.root.name o.collection.name))
    {es : List (String × Sql.Expr)} (h : entries env fields o = .ok es) :
    WellScoped env.schema (Sql.Expr.visitsOfEntries es around)
      (Query.referentsOfFields env.relationships env.root.name fields o.collection.name) := by
  have hentries := entries_eq_ok_iff.mp h
  clear h
  induction hentries with
  | nil => exact wellScoped_nil _
  | cons hfirst _ ihrest =>
    obtain ⟨ihfirst, ihothers⟩ := List.forall_mem_cons.mp ih
    rw [Sql.Expr.visitsOfEntries, Query.referentsOfFields]
    exact (ihfirst _ hfirst.2).append (ihrest ihothers)

/-- The references of a level find what they mean. Its SELECT is inside those of the levels that it
is nested in. -/
theorem level_wellScoped {env : Env} (hs : env.schema.Consistent) (q : Query) {o : Occurrence}
    {tie : List Sql.Expr} {single : Bool} {s : Sql.Select}
    (h : level env q o tie single = .ok s) {outer : Sql.Scopes} {referents : List Referent}
    (henc : ∀ paths, Followable env o paths →
      Encloses env o (levelScope env o paths :: outer) ∧
        WellScoped env.schema (Sql.Expr.visitsOfAll tie (levelScope env o paths :: outer))
          referents) :
    WellScoped env.schema (s.visits outer)
      (q.referents env.relationships env.root.name o.collection.name referents) := by
  induction q using Query.induction generalizing o tie single s outer referents with
  | step q ih =>
    obtain ⟨-, es, conds, js, orders, js', hes, hconds, horders, rfl⟩ := level_eq_ok_iff.mp h
    obtain ⟨hpaths, hjs⟩ := level_joins hconds horders
    obtain ⟨hown, htie⟩ := henc q.paths hpaths
    have hentry : ∀ f ∈ q.fields, ∀ e, entry env f.2 o f.1 = .ok e →
        WellScoped env.schema (e.visits (levelScope env o q.paths :: outer))
          (f.2.referents env.relationships env.root.name o.collection.name) := by
      rintro ⟨name, field⟩ hf e he
      cases field with
      | column column =>
        obtain ⟨hcolumn, rfl⟩ := entry_column_iff.mp he
        rw [Sql.Expr.visits_col]
        apply wellScoped_column
        exact ⟨rfl, binding?_of_mem List.mem_cons_self, _, _, rfl, List.mem_cons_self,
          o.collection, hown.mem, hcolumn⟩
      | relationship id inner =>
        obtain ⟨r, c, rows, hr, hc, hties, hrows, rfl⟩ := entry_relationship_iff.mp he
        have hin := Occurrence.in_of_get? hs.toKeyed hc (nestedLabel o.label name)
        rw [Sql.Expr.visits, Sql.Expr.visits, Statement.Field.referents,
          targetOf_eq hs.toKeyed hr hc]
        refine ih name id inner hf hrows fun paths hinner => ?_
        obtain ⟨hchild, hparent⟩ := hown.child hin (length_lt_nestedLabel o.label name) hinner
        exact ⟨hchild, ties_wellScoped hs hown hr hc hties hchild hparent⟩
    have hscope : o.scope js' = levelScope env o q.paths := by
      rw [hjs]
      rfl
    have hjoins := joins_wellScoped (levelScope_scoped hs hown.mem hpaths).1
    have hfilter := optionalCondition_wellScoped
      (fun c _ _ _ _ h hsub => condition_wellScoped hs c h hpaths hsub hown) hconds
      (List.subset_append_left _ _)
    have horder := orderExprs_wellScoped hs horders hpaths (List.subset_append_right _ _) hown
    have hkeys := rowKey_wellScoped hs hown js'.fansOut
    have hentries := entries_wellScoped hentry hes
    rw [foldSelect_visits, rowSelect_visits, hscope, Sql.Expr.visitsOfAll_append,
      Statement.Query.referents_eq]
    refine .cons rfl trivial (.cons rfl ⟨_, _, rfl, rfl⟩ (.cons rfl trivial ?_))
    rw [← hjs] at hjoins
    have hwhere := (hentries.append hjoins).append (htie.append hfilter)
    have hall := (hwhere.append hkeys).append horder
    simpa only [List.append_nil] using hall

/-- **Main theorem.** In a schema that a document describes, every reference of a compiled statement
finds what it means: qualified columns mean the referents of the statement, one by one, and the
conditions of joins, the grouping keys and the unqualified names are in scope. -/
theorem compile_wellScoped {d : Document} {schema : Schema} {s : Statement}
    {bindings : VariableSet} {t : Sql.Select} (hschema : Schema.ofDocument d = .ok schema)
    (h : compile schema s bindings = .ok t) : WellScoped schema (t.visits []) s.referents := by
  have hs := Schema.consistent_of_ofDocument hschema
  obtain ⟨root, rows, hroot, hrows, rfl⟩ := compile_eq_ok_iff.mp h
  have hname := hs.toKeyed.name_of_get? hroot
  have hin : schema.collections.get? root.name = some root := by
    rw [hname]
    exact hroot
  rw [scalar_visits, Statement.referents, ← hname]
  refine .cons rfl trivial ?_
  refine level_wellScoped hs s.query hrows fun paths _ => ⟨?_, wellScoped_nil _⟩
  exact {
    mem := hin
    bound := ⟨_, _, rfl, List.mem_cons_self⟩
    root_mem := hin
    root_le := Nat.le_refl _
    two_le := Nat.le_refl _
    root_bound := ⟨_, _, rfl, List.mem_cons_self⟩
    root_nearest := binding?_of_mem List.mem_cons_self }

/-- Users of the shop that have orders and an organisation, each with their orders for one
organisation. -/
def usersWithOrders : Statement where
  collection := "users"
  query := {
    fields := [("id", .column "id"), ("orders", .relationship ⟨0⟩ {
      fields := [("id", .column "id")]
      aggregates := []
      filter := some (.compare ⟨"name", [⟨1⟩], .current⟩ (.known .eq) (.value (.string "Acme")))
      orderBy := []
      limit := none
      offset := none })]
    aggregates := []
    filter := some (.existsIn (.related ⟨0⟩) (some (.not (.isNull (.root "org_id")))))
    orderBy := []
    limit := none
    offset := none }
  relationships := ⟨[
    ("orders", ⟨"orders", "orders", [("id", "user_id")], .array⟩),
    ("org", ⟨"org", "orgs", [("org_id", "id")], .object⟩)]⟩
  variableSets := none

theorem usersWithOrders_wellScoped :
    ∃ t, compile shop usersWithOrders .empty = .ok t ∧
      WellScoped shop (t.visits []) [
        ⟨.current, "users", "id"⟩, ⟨.current, "orders", "id"⟩, ⟨.parent, "users", "id"⟩,
        ⟨.current, "orders", "user_id"⟩, ⟨.current, "orgs", "name"⟩, ⟨.parent, "users", "id"⟩,
        ⟨.current, "orders", "user_id"⟩, ⟨.root, "users", "org_id"⟩] := by
  obtain ⟨t, ht⟩ : ∃ t, compile shop usersWithOrders .empty = .ok t := ⟨_, rfl⟩
  exact ⟨t, ht, compile_wellScoped ofDocument_shopDocument ht⟩

end CollectionSql.Selection
