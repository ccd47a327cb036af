import Mathlib.Data.List.Induction
import Mathlib.Data.List.Infix
import CollectionSql.Plan
import CollectionSql.Proofs.JoinLists
import CollectionSql.Proofs.Lowering
import CollectionSql.Proofs.Trees

/-!
# Labels of joined tables

The label of a joined table is spelled from the names of the relationships that lead to it, with a
`_` before each. A name may itself hold a `_`, so two different paths may spell the same label. A
SELECT then joins two tables under one label, since only identical joins are folded.

Results:
* `reached_label`: the label at the end of a path is the starting label and the spelling of the
  path.
* `labels_nodup_iff`: the labels of a SELECT are different iff different prefixes of its paths are
  spelled differently.
* `selects_labels_nodup_iff`: the same for every SELECT of a compiled statement.
-/

namespace CollectionSql

/-! ## Names of relationships -/

namespace Relationships

/-- The name of a relationship. -/
def nameOf (t : Relationships) (id : RelationshipId) : String :=
  (t.get? id).elim "" Relationship.name

/-- Relationships with the same name are the same. -/
def NamesDiffer (t : Relationships) : Prop :=
  ∀ id id' r r', t.get? id = some r → t.get? id' = some r' → r.name = r'.name → id = id'

/-- Every relationship is kept once, under its own name. -/
structure Keyed (t : Relationships) : Prop where
  nodup : t.entries.keys.Nodup
  name_eq : ∀ entry ∈ t.entries, entry.2.name = entry.1

theorem Keyed.namesDiffer {t : Relationships} (ht : t.Keyed) : t.NamesDiffer := by
  have hname : ∀ id r, t.get? id = some r → t.entries.keys[id.index]? = some r.name := by
    intro id r h
    unfold get? Dict.values at h
    rw [List.getElem?_map, Option.map_eq_some_iff] at h
    obtain ⟨entry, hentry, rfl⟩ := h
    rw [Dict.keys, List.getElem?_map, hentry, Option.map_some,
      ht.name_eq entry (List.mem_of_getElem? hentry)]
  intro id id' r r' h h' heq
  have hindex := hname id r h
  have hindex' := hname id' r' h'
  rw [← heq] at hindex'
  obtain ⟨hlt, -⟩ := List.getElem?_eq_some_iff.mp hindex
  have : id.index = id'.index := (List.getElem?_inj hlt ht.nodup).mp (hindex.trans hindex'.symm)
  cases id
  cases id'
  simp_all

end Relationships

/-- The relationships of a statement that a request stands for have different names. -/
theorem Statement.namesDiffer_of_ofRequest {r : Request} {s : Statement}
    (h : Statement.ofRequest r = .ok s) : s.relationships.NamesDiffer := by
  obtain ⟨query, -, rfl⟩ := Statement.ofRequest_eq_ok_iff.mp h
  apply Relationships.Keyed.namesDiffer
  have hentries := Statement.entries_relationshipsOf r.relationships
  refine ⟨?_, fun entry hentry => ?_⟩
  · rw [hentries]
    exact Dict.nodup_keys_ofPairs _
  · rw [hentries] at hentry
    obtain ⟨declared, -, rfl⟩ := List.mem_map.mp (Dict.mem_of_mem_ofPairs hentry)
    rfl

/-! ## Levels of statements -/

namespace Statement

mutual

/-- The paths of each existence check inside a condition. -/
def Condition.levels : Condition → List (List (List RelationshipId))
  | .isNull _ => []
  | .compare _ _ _ => []
  | .and operands => Condition.levelsOfAll operands
  | .or operands => Condition.levelsOfAll operands
  | .not operand => operand.levels
  | .existsIn _ predicate => Condition.pathsOf? predicate :: Condition.levelsOf? predicate

/-- The paths of each existence check inside a list of conditions. -/
def Condition.levelsOfAll : List Condition → List (List (List RelationshipId))
  | [] => []
  | c :: cs => c.levels ++ Condition.levelsOfAll cs

/-- The paths of each existence check inside a condition that may be absent. -/
def Condition.levelsOf? : Option Condition → List (List (List RelationshipId))
  | none => []
  | some c => c.levels

end

mutual

/-- The paths of each level of a query: of its own rows, of the existence checks in its filter, and
of the levels nested in it. -/
def Query.levels : Query → List (List (List RelationshipId))
  | ⟨fields, aggregates, filter, orderBy, limit, offset⟩ =>
    Query.paths ⟨fields, aggregates, filter, orderBy, limit, offset⟩ ::
      (Condition.levelsOf? filter ++ Query.levelsOfFields fields)

/-- The paths of each level of the entries of a row. -/
def Query.levelsOfFields : List (String × Field) → List (List (List RelationshipId))
  | [] => []
  | (_, field) :: rest => field.levels ++ Query.levelsOfFields rest

/-- The paths of each level of one entry of a row. -/
def Field.levels : Field → List (List (List RelationshipId))
  | .column _ => []
  | .relationship _ query => query.levels

end

theorem Query.levels_eq (q : Query) :
    q.levels = q.paths :: (Condition.levelsOf? q.filter ++ Query.levelsOfFields q.fields) := by
  cases q
  rfl

end Statement

/-! ## Spellings of paths -/

namespace Selection

open Statement (Condition Query)

/-- What a path adds to the label that it starts from. -/
def spelling (t : Relationships) : List RelationshipId → String
  | [] => ""
  | id :: ids => "_" ++ t.nameOf id ++ spelling t ids

theorem spelling_append (t : Relationships) (p q : List RelationshipId) :
    spelling t (p ++ q) = spelling t p ++ spelling t q := by
  induction p with
  | nil => simp [spelling]
  | cons id ids ih => simp [spelling, ih, String.append_assoc]

theorem spelling_singleton (t : Relationships) (id : RelationshipId) :
    spelling t [id] = "_" ++ t.nameOf id := by
  simp [spelling]

theorem spelling_eq_empty_iff {t : Relationships} {p : List RelationshipId} :
    spelling t p = "" ↔ p = [] := by
  cases p with
  | nil => simp [spelling]
  | cons id ids =>
    simp only [reduceCtorEq, iff_false]
    intro h
    have hlength := congrArg String.length h
    simp [spelling, String.length_append] at hlength

theorem hop?_label {env : Env} {o : Occurrence} {id : RelationshipId} {h : Hop}
    (hh : hop? env o id = some h) :
    h.target.label = o.label ++ spelling env.relationships [id] := by
  obtain ⟨r, target, key, hr, -, -, rfl⟩ := hop?_eq_some_iff.mp hh
  simp [Hop.over, joinLabel, spelling_singleton, Relationships.nameOf, hr, String.append_assoc]

/-- The label at the end of a path is the starting label and the spelling of the path. -/
theorem reached_label {env : Env} {p : List RelationshipId} {o : Occurrence} {hs : List Hop}
    (h : hops? env p o = some hs) :
    (reached o hs).label = o.label ++ spelling env.relationships p := by
  induction p generalizing o hs with
  | nil =>
    cases h
    simp [spelling]
  | cons id ids ih =>
    obtain ⟨first, rest, hfirst, hrest, rfl⟩ := hops?_cons_iff.mp h
    rw [reached_cons, ih hrest, hop?_label hfirst, String.append_assoc, ← spelling_append]
    rfl

/-- The places along paths, each as the way that leads to it. -/
def stops (paths : List (List RelationshipId)) : List (List RelationshipId) :=
  paths.flatMap List.inits

theorem mem_stops {paths : List (List RelationshipId)} {q : List RelationshipId} :
    q ∈ stops paths ↔ ∃ p ∈ paths, q <+: p := by
  simp [stops]

/-- Different places along the paths are spelled differently. -/
def Unambiguous (t : Relationships) (paths : List (List RelationshipId)) : Prop :=
  ∀ q ∈ stops paths, ∀ q' ∈ stops paths, spelling t q = spelling t q' → q = q'

instance (t : Relationships) (paths : List (List RelationshipId)) :
    Decidable (Unambiguous t paths) :=
  inferInstanceAs (Decidable (∀ q ∈ stops paths, ∀ q' ∈ stops paths, _ → _))

/-! ## The labels of one SELECT -/

theorem length_lt_joinLabel (current relationship : String) :
    current.length < (joinLabel current relationship).length := by
  simp only [joinLabel, String.length_append, show "_".length = 1 from rfl]
  omega

/-- A join tells which label it starts from and which relationship it follows. -/
theorem Hop.over_join_inj {o o' : Occurrence} {r r' : Relationship} {c c' : Collection}
    {key key' : HopKey}
    (h : (Hop.over o r c key).join = (Hop.over o' r' c' key').join) :
    o.label = o'.label ∧ r.name = r'.name := by
  have hlength' := length_lt_joinLabel o'.label r'.name
  have hlabel : joinLabel o.label r.name = joinLabel o'.label r'.name :=
    congrArg Sql.Join.label h
  have hlhs := congrArg (fun j : Sql.Join => j.lhs.table) h
  have hrhs := congrArg (fun j : Sql.Join => j.rhs.table) h
  have hstart : o.label = o'.label := by
    -- a key of one direction has the longer label on the other side than a key of the other
    cases key <;> cases key' <;> simp only [Hop.over, HopKey.columns] at hlhs hrhs
    · exact hlhs
    · rw [hlabel] at hrhs
      rw [hrhs] at hlength'
      exact absurd hlength' (Nat.lt_irrefl _)
    · rw [hlabel] at hlhs
      rw [hlhs] at hlength'
      exact absurd hlength' (Nat.lt_irrefl _)
    · exact hrhs
  refine ⟨hstart, ?_⟩
  rw [joinLabel, joinLabel, hstart] at hlabel
  exact String.append_right_inj _ |>.mp hlabel

/-- The joins of a level are the last hops of the places along its paths. -/
theorem mem_joins_iff {env : Env} {o : Occurrence} {paths : List (List RelationshipId)}
    (hpaths : Followable env o paths) {j : Sql.Join} :
    j ∈ (Joins.ofPaths env o paths).list ↔
      ∃ q id before h, q ++ [id] ∈ stops paths ∧ hops? env q o = some before ∧
        hop? env (reached o before) id = some h ∧ j = h.join := by
  simp only [Joins.ofPaths, mem_insertAll, Joins.empty, List.not_mem_nil, false_or,
    List.mem_flatMap, mem_stops]
  constructor
  · rintro ⟨h, ⟨p, hp, hh⟩, rfl⟩
    obtain ⟨q, id, before, hq, hbefore, hhop⟩ := (mem_hops_iff (hpaths p hp)).mp hh
    exact ⟨q, id, before, h, ⟨p, hp, hq⟩, hbefore, hhop, rfl⟩
  · rintro ⟨q, id, before, h, ⟨p, hp, hq⟩, hbefore, hhop, rfl⟩
    exact ⟨h, ⟨p, hp, (mem_hops_iff (hpaths p hp)).mpr ⟨q, id, before, hq, hbefore, hhop⟩⟩, rfl⟩

theorem join_label {env : Env} {o : Occurrence} {q : List RelationshipId} {id : RelationshipId}
    {before : List Hop} {h : Hop} (hbefore : hops? env q o = some before)
    (hhop : hop? env (reached o before) id = some h) :
    h.join.label = o.label ++ spelling env.relationships (q ++ [id]) := by
  have hlabel : h.join.label = h.target.label := by
    obtain ⟨r, target, key, -, -, -, rfl⟩ := hop?_eq_some_iff.mp hhop
    rfl
  rw [hlabel, hop?_label hhop, reached_label hbefore, spelling_append, String.append_assoc]

/-- Every place along followable paths is the end of hops. -/
theorem hops?_of_mem_stops {env : Env} {o : Occurrence} {paths : List (List RelationshipId)}
    (hpaths : Followable env o paths) {q : List RelationshipId} (hq : q ∈ stops paths) :
    ∃ before, hops? env q o = some before := by
  obtain ⟨p, hp, rest, rfl⟩ := mem_stops.mp hq
  obtain ⟨before, _, hbefore, -, -⟩ := hops?_append_iff.mp (hpaths _ hp)
  exact ⟨before, hbefore⟩

theorem mem_stops_of_append {paths : List (List RelationshipId)} {q rest : List RelationshipId}
    (h : q ++ rest ∈ stops paths) : q ∈ stops paths := by
  obtain ⟨p, hp, hq⟩ := mem_stops.mp h
  exact mem_stops.mpr ⟨p, hp, (List.prefix_append q rest).trans hq⟩

/-- If the joins have different labels, different places are spelled differently. The induction
takes the last hop off both places: their joins are equal, so the places before them have equal
labels. -/
theorem unambiguous_of_labels_nodup {env : Env} {o : Occurrence}
    {paths : List (List RelationshipId)} (hnames : env.relationships.NamesDiffer)
    (hpaths : Followable env o paths)
    (hnodup : ((Joins.ofPaths env o paths).list.map Sql.Join.label).Nodup) :
    Unambiguous env.relationships paths := by
  intro q
  induction q using List.reverseRecOn with
  | nil =>
    intro _ q' _ hspelling
    exact (spelling_eq_empty_iff.mp hspelling.symm).symm
  | append_singleton q id ih =>
    intro hq q' hq' hspelling
    rcases List.eq_nil_or_concat' q' with rfl | ⟨q', id', rfl⟩
    · exact spelling_eq_empty_iff.mp hspelling
    obtain ⟨hops, hhops⟩ := hops?_of_mem_stops hpaths hq
    obtain ⟨hops', hhops'⟩ := hops?_of_mem_stops hpaths hq'
    obtain ⟨before, h, hbefore, hh⟩ := hops?_concat hhops
    obtain ⟨before', h', hbefore', hh'⟩ := hops?_concat hhops'
    have hjoin : h.join = h'.join := by
      refine List.inj_on_of_nodup_map hnodup ?_ ?_ ?_
      · exact (mem_joins_iff hpaths).mpr ⟨q, id, before, h, hq, hbefore, hh, rfl⟩
      · exact (mem_joins_iff hpaths).mpr ⟨q', id', before', h', hq', hbefore', hh', rfl⟩
      · rw [join_label hbefore hh, join_label hbefore' hh', hspelling]
    obtain ⟨r, c, key, hr, -, -, rfl⟩ := hop?_eq_some_iff.mp hh
    obtain ⟨r', c', key', hr', -, -, rfl⟩ := hop?_eq_some_iff.mp hh'
    obtain ⟨hlabel, hname⟩ := Hop.over_join_inj hjoin
    rw [reached_label hbefore, reached_label hbefore', String.append_right_inj] at hlabel
    rw [ih (mem_stops_of_append hq) q' (mem_stops_of_append hq') hlabel,
      hnames id id' r r' hr hr' hname]

/-- The labels of a SELECT are different iff different places along its paths are spelled
differently. -/
theorem labels_nodup_iff {env : Env} {o : Occurrence} {paths : List (List RelationshipId)}
    (hnames : env.relationships.NamesDiffer) (hpaths : Followable env o paths) :
    (o.label :: (Joins.ofPaths env o paths).list.map Sql.Join.label).Nodup ↔
      Unambiguous env.relationships paths := by
  constructor
  · intro h
    exact unambiguous_of_labels_nodup hnames hpaths (List.nodup_cons.mp h).2
  · intro h
    refine List.nodup_cons.mpr ⟨?_, List.Nodup.map_on ?_ (nodup_insertAll List.nodup_nil _)⟩
    · -- every joined table has a longer label than the one that the paths start from
      intro hmem
      obtain ⟨j, hj, hlabel⟩ := List.mem_map.mp hmem
      obtain ⟨q, id, before, hop, -, hbefore, hhop, rfl⟩ := (mem_joins_iff hpaths).mp hj
      rw [join_label hbefore hhop, String.append_eq_left_iff, spelling_eq_empty_iff] at hlabel
      simp at hlabel
    · intro j hj j' hj' hlabel
      obtain ⟨q, id, before, hop, hq, hbefore, hhop, rfl⟩ := (mem_joins_iff hpaths).mp hj
      obtain ⟨q', id', before', hop', hq', hbefore', hhop', rfl⟩ := (mem_joins_iff hpaths).mp hj'
      rw [join_label hbefore hhop, join_label hbefore' hhop', String.append_right_inj] at hlabel
      obtain ⟨rfl, rfl⟩ := List.append_singleton_inj.mp (h _ hq _ hq' hlabel)
      rw [hbefore] at hbefore'
      cases hbefore'
      rw [hhop] at hhop'
      cases hhop'
      rfl

/-! ## The labels of every SELECT -/

/-- Every SELECT that a walk meets binds different labels. -/
def LabelsDistinct (visits : List Sql.Visit) : Prop :=
  ∀ s, .select s ∈ visits → s.scope.labels.Nodup

theorem labelsDistinct_append {vs vs' : List Sql.Visit} :
    LabelsDistinct (vs ++ vs') ↔ LabelsDistinct vs ∧ LabelsDistinct vs' := by
  simp only [LabelsDistinct, List.mem_append, or_imp, forall_and]

theorem labelsDistinct_select {s : Sql.Select} {vs : List Sql.Visit} :
    LabelsDistinct (.select s :: vs) ↔ s.scope.labels.Nodup ∧ LabelsDistinct vs := by
  simp only [LabelsDistinct, List.mem_cons, or_imp, forall_and, Sql.Visit.select.injEq, forall_eq]

/-- A walk that meets no SELECT. -/
theorem labelsDistinct_of_forall {vs : List Sql.Visit} (h : ∀ v ∈ vs, v.select? = none) :
    LabelsDistinct vs :=
  fun _ hs => nomatch h _ hs

theorem labelsDistinct_joins (js : List Sql.Join) (tables : List (String × String)) :
    LabelsDistinct (Sql.Join.visits js tables) := by
  apply labelsDistinct_of_forall
  induction js generalizing tables with
  | nil => exact fun _ h => absurd h List.not_mem_nil
  | cons j js ih => exact List.forall_mem_cons.mpr ⟨rfl, ih _⟩

theorem columnExpr_labelsDistinct {env : Env} {o : Occurrence} {c : Statement.ColumnRef}
    {js js' : Joins} {e : Sql.Expr} (h : columnExpr env o c js = .ok (e, js'))
    (around : Sql.Scopes) : LabelsDistinct (e.visits around) := by
  obtain ⟨target, hs, -, -, rfl, -⟩ := columnExpr_eq_ok_iff.mp h
  rw [Sql.Expr.visits_col]
  exact labelsDistinct_of_forall (by simp [Sql.Visit.select?])

theorem ties_labelsDistinct (parent child : String) (mapping : List (String × String))
    (around : Sql.Scopes) :
    LabelsDistinct (Sql.Expr.visitsOfAll (mapping.map (tieExpr parent child)) around) := by
  apply labelsDistinct_of_forall
  induction mapping with
  | nil => exact fun _ h => absurd h List.not_mem_nil
  | cons pair rest ih =>
    rw [List.map_cons, Sql.Expr.visitsOfAll, tieExpr, Sql.Expr.visits, Sql.Expr.visits_col,
      Sql.Expr.visits_col]
    simpa [Sql.Visit.select?] using ih

/-- No level has different places that are spelled alike. -/
def AllUnambiguous (t : Relationships) (levels : List (List (List RelationshipId))) : Prop :=
  ∀ paths ∈ levels, Unambiguous t paths

instance (t : Relationships) (levels : List (List (List RelationshipId))) :
    Decidable (AllUnambiguous t levels) :=
  inferInstanceAs (Decidable (∀ paths ∈ levels, Unambiguous t paths))

theorem allUnambiguous_nil (t : Relationships) : AllUnambiguous t [] :=
  fun _ h => absurd h List.not_mem_nil

theorem allUnambiguous_append {t : Relationships} {ls ls' : List (List (List RelationshipId))} :
    AllUnambiguous t (ls ++ ls') ↔ AllUnambiguous t ls ∧ AllUnambiguous t ls' := by
  simp only [AllUnambiguous, List.mem_append, or_imp, forall_and]

theorem allUnambiguous_cons {t : Relationships} {paths : List (List RelationshipId)}
    {ls : List (List (List RelationshipId))} :
    AllUnambiguous t (paths :: ls) ↔ Unambiguous t paths ∧ AllUnambiguous t ls :=
  List.forall_mem_cons

theorem scope_labels_nodup_iff {env : Env} (hnames : env.relationships.NamesDiffer)
    {o : Occurrence} {paths : List (List RelationshipId)} {js : Joins}
    (hpaths : Followable env o paths)
    (hjs : js = .ofPaths env o paths) :
    (o.scope js).labels.Nodup ↔ Unambiguous env.relationships paths := by
  rw [Occurrence.scope_labels, hjs]
  exact labels_nodup_iff hnames hpaths

theorem conditions_labelsDistinct_iff {env : Env} {o : Occurrence} {cs : List Condition}
    (ih : ∀ c ∈ cs, ∀ js e js' around, condition env c o js = .ok (e, js') →
      (LabelsDistinct (e.visits around) ↔ AllUnambiguous env.relationships c.levels))
    {js js' : Joins} {es : List Sql.Expr} (h : conditions env cs o js = .ok (es, js'))
    (around : Sql.Scopes) :
    LabelsDistinct (Sql.Expr.visitsOfAll es around) ↔
      AllUnambiguous env.relationships (Condition.levelsOfAll cs) := by
  induction cs generalizing js es with
  | nil =>
    rw [(conditions_nil_iff.mp h).1]
    exact iff_of_true (labelsDistinct_of_forall (by simp [Sql.Expr.visitsOfAll]))
      (allUnambiguous_nil _)
  | cons c cs ihcs =>
    obtain ⟨ihc, ihrest⟩ := List.forall_mem_cons.mp ih
    obtain ⟨e, rest, between, he, hrest, rfl⟩ := conditions_cons_iff.mp h
    rw [Sql.Expr.visitsOfAll, labelsDistinct_append, Condition.levelsOfAll, allUnambiguous_append,
      ihc _ _ _ around he, ihcs ihrest hrest]

theorem optionalCondition_labelsDistinct_iff {env : Env} {o : Occurrence} {p : Option Condition}
    (ih : ∀ c, p = some c → ∀ js e js' around, condition env c o js = .ok (e, js') →
      (LabelsDistinct (e.visits around) ↔ AllUnambiguous env.relationships c.levels))
    {js js' : Joins} {es : List Sql.Expr} (h : optionalCondition env p o js = .ok (es, js'))
    (around : Sql.Scopes) :
    LabelsDistinct (Sql.Expr.visitsOfAll es around) ↔
      AllUnambiguous env.relationships (Condition.levelsOf? p) := by
  cases p with
  | none =>
    rw [(optionalCondition_none_iff.mp h).1]
    exact iff_of_true (labelsDistinct_of_forall (by simp [Sql.Expr.visitsOfAll]))
      (allUnambiguous_nil _)
  | some c =>
    obtain ⟨e, he, rfl⟩ := optionalCondition_some_iff.mp h
    rw [Sql.Expr.visitsOfAll, Sql.Expr.visitsOfAll, List.append_nil, ih c rfl _ _ _ around he,
      Condition.levelsOf?]

/-- The existence checks inside a condition bind different labels iff none of them has different
places that are spelled alike. -/
theorem condition_labelsDistinct_iff {env : Env} (hnames : env.relationships.NamesDiffer)
    (c : Condition) {o : Occurrence} {js js' : Joins} {e : Sql.Expr}
    (h : condition env c o js = .ok (e, js')) (around : Sql.Scopes) :
    LabelsDistinct (e.visits around) ↔ AllUnambiguous env.relationships c.levels := by
  induction c using Condition.induction generalizing o js e js' around with
  | isNull column =>
    obtain ⟨col, hcol, rfl⟩ := condition_isNull_iff.mp h
    rw [Sql.Expr.visits]
    exact iff_of_true (columnExpr_labelsDistinct hcol around) (allUnambiguous_nil _)
  | compare column op rhs =>
    obtain ⟨known, v, col, -, -, hcol, rfl⟩ := condition_compare_iff.mp h
    rw [Sql.Expr.visits, Sql.Expr.visits, List.append_nil]
    exact iff_of_true (columnExpr_labelsDistinct hcol around) (allUnambiguous_nil _)
  | and operands ih =>
    obtain ⟨es, hes, rfl⟩ := condition_and_iff.mp h
    rw [Sql.Expr.visits, Condition.levels]
    exact conditions_labelsDistinct_iff (fun c hc _ _ _ around h => ih c hc h around) hes around
  | or operands ih =>
    obtain ⟨es, hes, rfl⟩ := condition_or_iff.mp h
    rw [Sql.Expr.visits, Condition.levels]
    exact conditions_labelsDistinct_iff (fun c hc _ _ _ around h => ih c hc h around) hes around
  | not operand ih =>
    obtain ⟨e', he', rfl⟩ := condition_not_iff.mp h
    rw [Sql.Expr.visits, Condition.levels]
    exact ih he' around
  | existsIn target predicate ih =>
    obtain ⟨id, r, c, es, inner, rfl, -, -, -, hes, rfl, -⟩ := condition_existsIn_iff.mp h
    obtain ⟨hpaths, hinner⟩ := optionalCondition_joins hes
    rw [existsExpr_visits, labelsDistinct_select, existsSelect_scope, labelsDistinct_append,
      Sql.Expr.visitsOfAll_append, labelsDistinct_append, Condition.levels, allUnambiguous_cons,
      scope_labels_nodup_iff hnames hpaths hinner,
      optionalCondition_labelsDistinct_iff (fun c hc _ _ _ around h => ih c hc h around) hes]
    simp only [labelsDistinct_joins, ties_labelsDistinct, true_and]

theorem orders_labelsDistinct {env : Env} {o : Occurrence} {orders : List Statement.Order}
    {js js' : Joins} {es : List (Sql.Expr × Direction)}
    (h : orderExprs env o orders js = .ok (es, js')) (around : Sql.Scopes) :
    LabelsDistinct (Sql.Select.visitsOfOrders es around) := by
  induction orders generalizing js es with
  | nil =>
    rw [(orderExprs_nil_iff.mp h).1]
    exact labelsDistinct_of_forall (by simp [Sql.Select.visitsOfOrders])
  | cons order orders ih =>
    obtain ⟨entry, rest, between, hfirst, hrest, rfl⟩ := orderExprs_cons_iff.mp h
    obtain ⟨c, e, -, he, rfl⟩ := orderExpr_eq_ok_iff.mp hfirst
    rw [Sql.Select.visitsOfOrders, labelsDistinct_append]
    exact ⟨columnExpr_labelsDistinct he around, ih hrest⟩

theorem keys_labelsDistinct (keys : List Sql.Expr) (around : Sql.Scopes) :
    LabelsDistinct (keys.map (.key · around)) :=
  labelsDistinct_of_forall (by simp [Sql.Visit.select?])

theorem entries_labelsDistinct_iff {env : Env} {o : Occurrence}
    {fields : List (String × Statement.Field)}
    (ih : ∀ f ∈ fields, ∀ e around, entry env f.2 o f.1 = .ok e →
      (LabelsDistinct (e.visits around) ↔ AllUnambiguous env.relationships f.2.levels))
    {es : List (String × Sql.Expr)} (h : entries env fields o = .ok es) (around : Sql.Scopes) :
    LabelsDistinct (Sql.Expr.visitsOfEntries es around) ↔
      AllUnambiguous env.relationships (Query.levelsOfFields fields) := by
  have hentries := entries_eq_ok_iff.mp h
  clear h
  induction hentries with
  | nil =>
    exact iff_of_true (labelsDistinct_of_forall (by simp [Sql.Expr.visitsOfEntries]))
      (allUnambiguous_nil _)
  | cons hfirst _ ihrest =>
    obtain ⟨ihfirst, ihothers⟩ := List.forall_mem_cons.mp ih
    rw [Sql.Expr.visitsOfEntries, labelsDistinct_append, Query.levelsOfFields,
      allUnambiguous_append]
    exact and_congr (ihfirst _ around hfirst.2) (ihrest ihothers)

/-- The SELECTs of a level bind different labels iff no level of its query has different places that
are spelled alike. -/
theorem level_labelsDistinct_iff {env : Env} (hnames : env.relationships.NamesDiffer) (q : Query)
    {o : Occurrence} {tie : List Sql.Expr} {single : Bool} {s : Sql.Select}
    (htie : ∀ around, LabelsDistinct (Sql.Expr.visitsOfAll tie around))
    (h : level env q o tie single = .ok s) (around : Sql.Scopes) :
    LabelsDistinct (s.visits around) ↔ AllUnambiguous env.relationships q.levels := by
  induction q using Query.induction generalizing o tie single s around with
  | step q ih =>
    obtain ⟨-, es, conds, js, orders, js', hes, hconds, horders, rfl⟩ := level_eq_ok_iff.mp h
    obtain ⟨hpaths, hjs⟩ := level_joins hconds horders
    have hentry : ∀ f ∈ q.fields, ∀ e around, entry env f.2 o f.1 = .ok e →
        (LabelsDistinct (e.visits around) ↔ AllUnambiguous env.relationships f.2.levels) := by
      rintro ⟨name, field⟩ hf e around he
      cases field with
      | column column =>
        obtain ⟨-, rfl⟩ := entry_column_iff.mp he
        rw [Sql.Expr.visits_col]
        exact iff_of_true (labelsDistinct_of_forall (by simp [Sql.Visit.select?]))
          (allUnambiguous_nil _)
      | relationship id inner =>
        obtain ⟨r, c, rows, -, -, -, hrows, rfl⟩ := entry_relationship_iff.mp he
        rw [Sql.Expr.visits, Sql.Expr.visits]
        exact ih name id inner hf (ties_labelsDistinct _ _ _) hrows around
    have hident : ∀ (vs : List Sql.Visit) name around,
        LabelsDistinct (.ident name around :: vs) ↔ LabelsDistinct vs := by
      simp [LabelsDistinct]
    rw [foldSelect_visits, labelsDistinct_select, hident, rowSelect_visits, labelsDistinct_select,
      rowSelect_scope, Query.levels_eq, allUnambiguous_cons, allUnambiguous_append,
      scope_labels_nodup_iff hnames hpaths hjs]
    simp only [labelsDistinct_append, Sql.Expr.visitsOfAll_append, labelsDistinct_joins, htie,
      keys_labelsDistinct, orders_labelsDistinct horders, entries_labelsDistinct_iff hentry hes,
      optionalCondition_labelsDistinct_iff
        (fun c _ _ _ _ around h => condition_labelsDistinct_iff hnames c h around) hconds]
    have hfold : (foldSelect (rowSelect o es (tie ++ conds) orders js'
        (Sql.Limit.of? (levelLimit q.limit single) q.offset))).scope.labels.Nodup := List.nodup_nil
    simp only [hfold, true_and, and_true]
    constructor
    · rintro ⟨hown, hfields, hfilter⟩
      exact ⟨hown, hfilter, hfields⟩
    · rintro ⟨hown, hfilter, hfields⟩
      exact ⟨hown, hfields, hfilter⟩

/-- **Main theorem.** In the statement that a request compiles to, the tables of each SELECT have
different labels iff no level of the request has different places, reached over relationships,
that are spelled alike. -/
theorem selects_labels_nodup_iff {schema : Schema} {r : Request} {s : Statement}
    {bindings : VariableSet} {t : Sql.Select} (hs : Statement.ofRequest r = .ok s)
    (ht : compile schema s bindings = .ok t) :
    (∀ select ∈ t.selects, select.scope.labels.Nodup) ↔
      AllUnambiguous s.relationships s.query.levels := by
  obtain ⟨root, rows, -, hrows, rfl⟩ := compile_eq_ok_iff.mp ht
  simp only [Sql.Select.mem_selects]
  rw [← LabelsDistinct, scalar_visits, labelsDistinct_select,
    level_labelsDistinct_iff (Statement.namesDiffer_of_ofRequest hs) s.query
      (fun _ => labelsDistinct_of_forall (by simp [Sql.Expr.visitsOfAll])) hrows]
  exact and_iff_right List.nodup_nil

/-- Orders of the shop by the name of the buyer's organisation, and then by that of the organisation
an order is for, with a name of its own for the second relationship. -/
def ordersByOrg (direct : String) : Request where
  collection := "orders"
  query := {
    aggregates := none
    fields := some [("id", .column "id")]
    limit := none
    offset := none
    orderBy := some [
      ⟨.asc, .column "name" [⟨"buyer", [], none⟩, ⟨"org", [], none⟩]⟩,
      ⟨.asc, .column "name" [⟨direct, [], none⟩]⟩]
    predicate := none }
  arguments := []
  relationships := [
    ("buyer", ⟨[("user_id", "id")], .object, "users", []⟩),
    ("org", ⟨[("org_id", "id")], .object, "orgs", []⟩),
    (direct, ⟨[("org_id", "id")], .object, "orgs", []⟩)]
  variableSets := none

theorem ordersByOrg_labels_nodup :
    ∃ s t, Statement.ofRequest (ordersByOrg "recipient") = .ok s ∧ compile shop s .empty = .ok t ∧
      ∀ select ∈ t.selects, select.scope.labels.Nodup := by
  have hcompiles : ∃ s, Statement.ofRequest (ordersByOrg "recipient") = .ok s ∧
      (∃ t, compile shop s .empty = .ok t) ∧ AllUnambiguous s.relationships s.query.levels :=
    ⟨_, rfl, ⟨_, rfl⟩, by decide⟩
  obtain ⟨s, hs, ⟨t, ht⟩, h⟩ := hcompiles
  exact ⟨s, t, hs, ht, (selects_labels_nodup_iff hs ht).mpr h⟩

/-- The label `orders_buyer_org` stands for two tables: the organisation of the buyer, and the one
that the relationship `buyer_org` leads to. -/
theorem ordersByOrg_labels_clash :
    ∃ schema s t, Schema.ofDocument shopDocument = .ok schema ∧
      Statement.ofRequest (ordersByOrg "buyer_org") = .ok s ∧ compile schema s .empty = .ok t ∧
      ∃ select ∈ t.selects, ¬select.scope.labels.Nodup := by
  refine ⟨shop, _, _, rfl, rfl, rfl, ?_⟩
  decide

end Selection

end CollectionSql
