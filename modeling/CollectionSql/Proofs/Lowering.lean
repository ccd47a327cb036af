import CollectionSql.Proofs.Dictionaries
import CollectionSql.Proofs.Results
import CollectionSql.Statement.OfRequest

/-!
# What a successful lowering looks like

Turning a request into a statement is a chain of lookups in the table of relationships. For each
step there is one lemma here that says when it succeeds and what it then returns. Later proofs cite
these lemmas and never open the functions again.

Results:
* `Relationships.get?_of_resolve`: the handle of a name leads to the entry of that name.
* `entries_relationshipsOf`: the table of a request holds what the request declares.
* `pathOf_eq_ok_iff`, `conditionsOf_eq_ok_iff`, `conditionOf?_eq_ok_iff`: parts of conditions.
* `fieldsOf_eq_ok_iff`, `queryOf_eq_ok_iff`, `ofRequest_eq_ok_iff`: queries and requests.
-/

namespace CollectionSql

/-! ## The table of relationships -/

namespace Relationships

theorem resolve_eq_ok_iff {t : Relationships} {name : String} {id : RelationshipId} :
    t.resolve name = .ok id ↔ t.entries.index? name = some id.index := by
  unfold resolve
  obtain ⟨i⟩ := id
  cases t.entries.index? name <;> simp

/-- The handle of a name leads to the entry of that name. -/
theorem get?_of_resolve {t : Relationships} {name : String} {id : RelationshipId}
    (h : t.resolve name = .ok id) :
    ∃ r, t.entries.get? name = some r ∧ t.get? id = some r :=
  Dict.get?_of_index? (resolve_eq_ok_iff.mp h)

end Relationships

/-- A relationship that a request declares, under its name. -/
def Request.Relationship.named (declared : Request.Relationship) (name : String) :
    CollectionSql.Relationship :=
  ⟨name, declared.targetCollection, declared.columnMapping, declared.cardinality⟩

namespace Statement

/-- The table of a request holds what the request declares. -/
theorem entries_relationshipsOf (declared : Dict Request.Relationship) :
    (relationshipsOf declared).entries =
      Dict.ofPairs (declared.map fun entry => (entry.1, entry.2.named entry.1)) := by
  induction declared using List.reverseRecOn with
  | nil => rfl
  | append_singleton declared entry ih =>
    rw [List.map_append, List.map_singleton, Dict.ofPairs_concat, ← ih, relationshipsOf,
      List.foldl_append]
    rfl

/-- The handle of a name leads to the relationship that the request declares under that name. -/
theorem get?_relationshipsOf {declared : Dict Request.Relationship} {name : String}
    {id : RelationshipId} (h : (relationshipsOf declared).resolve name = .ok id) :
    ∃ r, (Dict.ofPairs declared).get? name = some r ∧
      (relationshipsOf declared).get? id = some (r.named name) := by
  obtain ⟨_, hr, hget⟩ := Relationships.get?_of_resolve h
  have hlookup := Dict.get?_ofPairs_map (fun name r => Request.Relationship.named r name) declared
  rw [entries_relationshipsOf, hlookup, Option.map_eq_some_iff] at hr
  obtain ⟨r, hdeclared, rfl⟩ := hr
  exact ⟨r, hdeclared, hget⟩

section

variable {table : Relationships}

/-! ## Paths and conditions -/

theorem hopOf_eq_ok_iff {e : Request.PathElement} {id : RelationshipId} :
    hopOf table e = .ok id ↔ isUnconditional e = true ∧ table.resolve e.relationship = .ok id := by
  unfold hopOf
  by_cases h : isUnconditional e = true
  · simp [h]
  · simp [h]

theorem pathOf_eq_ok_iff {path : List Request.PathElement} {ids : List RelationshipId} :
    pathOf table path = .ok ids ↔ List.Forall₂ (fun e id =>
      isUnconditional e = true ∧ table.resolve e.relationship = .ok id) path ids := by
  simp only [pathOf, Result.mapM_eq_ok, hopOf_eq_ok_iff]

theorem conditionsOf_eq_ok_iff {es : List Request.Expression} {cs : List Condition} :
    conditionsOf table es = .ok cs ↔
      List.Forall₂ (fun e c => conditionOf table e = .ok c) es cs := by
  induction es generalizing cs with
  | nil =>
    rw [List.forall₂_nil_left_iff, conditionsOf, Except.ok.injEq]
    exact eq_comm
  | cons e es ih =>
    simp only [conditionsOf, Result.bind_eq_ok, Result.pure_eq_ok, List.forall₂_cons_left_iff, ih]
    constructor
    · rintro ⟨c, hc, rest, hrest, rfl⟩
      exact ⟨c, rest, hc, hrest, rfl⟩
    · rintro ⟨c, rest, hc, hrest, rfl⟩
      exact ⟨c, hc, rest, hrest, rfl⟩

theorem conditionOf?_eq_ok_iff {p : Option Request.Expression} {c : Option Condition} :
    conditionOf? table p = .ok c ↔
      Option.Rel (fun e c => conditionOf table e = .ok c) p c := by
  cases p with
  | none =>
    rw [conditionOf?, Except.ok.injEq]
    constructor
    · rintro rfl
      exact .none
    · rintro ⟨⟩
      rfl
  | some e =>
    simp only [conditionOf?, Result.bind_eq_ok, Result.pure_eq_ok]
    constructor
    · rintro ⟨d, hd, rfl⟩
      exact .some hd
    · rintro ⟨hd⟩
      exact ⟨_, hd, rfl⟩

/-! ## Queries -/

theorem fieldsOf_eq_ok_iff {fields : List (String × Request.Field)}
    {lowered : List (String × Field)} :
    fieldsOf table fields = .ok lowered ↔
      List.Forall₂ (fun f g => g.1 = f.1 ∧ fieldOf table f.2 = .ok g.2) fields lowered := by
  induction fields generalizing lowered with
  | nil =>
    rw [List.forall₂_nil_left_iff, fieldsOf, Except.ok.injEq]
    exact eq_comm
  | cons f rest ih =>
    obtain ⟨key, field⟩ := f
    simp only [fieldsOf, Result.bind_eq_ok, Result.pure_eq_ok, List.forall₂_cons_left_iff, ih]
    constructor
    · rintro ⟨g, hg, others, hothers, rfl⟩
      exact ⟨(key, g), others, ⟨rfl, hg⟩, hothers, rfl⟩
    · rintro ⟨⟨_, g⟩, others, ⟨rfl, hg⟩, hothers, rfl⟩
      exact ⟨g, hg, others, hothers, rfl⟩

theorem fieldsOf?_eq (fields : Option (List (String × Request.Field))) :
    fieldsOf? table fields = fieldsOf table (fields.getD []) := by
  cases fields with
  | none =>
    rw [fieldsOf?, Option.getD_none, fieldsOf]
  | some fields => rw [fieldsOf?, Option.getD_some]

/-- A query has a form in a statement if its fields, its condition and its ordering do. -/
theorem queryOf_eq_ok_iff {q : Request.Query} {lowered : Query} :
    queryOf table q = .ok lowered ↔ ∃ fields filter orderBy,
      fieldsOf table (q.fields.getD []) = .ok fields ∧
      conditionOf? table q.predicate = .ok filter ∧
      List.Forall₂ (fun e o => orderOf table e = .ok o) (q.orderBy.getD []) orderBy ∧
      lowered = ⟨fields, q.aggregates.getD [], filter, orderBy, q.limit, q.offset⟩ := by
  obtain ⟨aggregates, fields, limit, offset, orderBy, predicate⟩ := q
  simp only [queryOf, Result.bind_eq_ok, Result.pure_eq_ok, Result.mapM_eq_ok, fieldsOf?_eq]
  constructor
  · rintro ⟨fields, hfields, filter, hfilter, orderBy, horderBy, rfl⟩
    exact ⟨fields, filter, orderBy, hfields, hfilter, horderBy, rfl⟩
  · rintro ⟨fields, filter, orderBy, hfields, hfilter, horderBy, rfl⟩
    exact ⟨fields, hfields, filter, hfilter, orderBy, horderBy, rfl⟩

end

theorem ofRequest_eq_ok_iff {r : Request} {s : Statement} :
    ofRequest r = .ok s ↔ ∃ query, queryOf (relationshipsOf r.relationships) r.query = .ok query ∧
      s = ⟨r.collection, query, relationshipsOf r.relationships, r.variableSets.map fun sets =>
        sets.map fun set => .ofPairs (set.map fun e => (e.1, .ofJson e.2))⟩ := by
  simp only [ofRequest, Result.bind_eq_ok, Result.pure_eq_ok]
  constructor
  · rintro ⟨query, hquery, rfl⟩
    exact ⟨query, hquery, rfl⟩
  · rintro ⟨query, hquery, rfl⟩
    exact ⟨query, hquery, rfl⟩

end Statement

end CollectionSql
