import CollectionSql.Statement.Basic

/-!
# Induction over requests and statements

Conditions hold lists and options of conditions, and queries hold fields that hold queries. The
principles below give an induction hypothesis for every member, so that later proofs follow the
constructors and never the lists between them.

Results:
* `Request.Expression.induction`, `Statement.Condition.induction`: a property of conditions, from
  their operands and predicates.
* `Request.Query.induction`, `Statement.Query.induction`: a property of queries, from the queries of
  their relationship fields.
-/

namespace CollectionSql.Request

/-- A property of conditions holds if every constructor keeps it. The conditions on path elements
give no hypothesis. -/
@[elab_as_elim]
theorem Expression.induction {P : Expression → Prop}
    (and : ∀ operands, (∀ e ∈ operands, P e) → P (.and operands))
    (or : ∀ operands, (∀ e ∈ operands, P e) → P (.or operands))
    (not : ∀ operand, P operand → P (.not operand)) (isNull : ∀ column, P (.isNull column))
    (compare : ∀ column operator value, P (.compare column operator value))
    (existsIn : ∀ collection predicate, (∀ e, predicate = some e → P e) →
      P (.existsIn collection predicate)) (e : Expression) : P e := by
  refine @Expression.rec P (fun _ => True) (fun _ => True) (fun _ => True)
    (fun operands => ∀ e ∈ operands, P e) (fun predicate => ∀ e, predicate = some e → P e)
    (fun _ => True) and or not (fun column _ => isNull column)
    (fun column operator value _ _ => compare column operator value) existsIn
    (fun _ _ _ _ => trivial) (fun _ _ _ => trivial) (fun _ => trivial) (fun _ _ => trivial)
    (fun _ => trivial) (fun _ => trivial) ?_ ?_ ?_ ?_ trivial (fun _ _ _ _ => trivial) e
  · intro e he
    cases he
  · intro first rest hfirst hrest e he
    rcases List.mem_cons.mp he with rfl | he
    · exact hfirst
    · exact hrest e he
  · intro e he
    cases he
  · intro first hfirst e he
    cases he
    exact hfirst

/-- A property of queries holds if every query has it whose nested queries have it. -/
@[elab_as_elim]
theorem Query.induction {P : Query → Prop}
    (step : ∀ q : Query, (∀ key nested relationship arguments,
      (key, Field.relationship nested relationship arguments) ∈ q.fields.getD [] → P nested) → P q)
    (q : Query) : P q := by
  refine @Query.rec P
    (fun field => ∀ nested relationship arguments,
      field = .relationship nested relationship arguments → P nested)
    (fun fields => ∀ key nested relationship arguments,
      (key, Field.relationship nested relationship arguments) ∈ fields.getD [] → P nested)
    (fun fields => ∀ key nested relationship arguments,
      (key, Field.relationship nested relationship arguments) ∈ fields → P nested)
    (fun entry => ∀ nested relationship arguments,
      entry.2 = .relationship nested relationship arguments → P nested)
    ?_ ?_ ?_ ?_ ?_ ?_ ?_ ?_ q
  · intro aggregates fields limit offset orderBy predicate ih
    exact step ⟨aggregates, fields, limit, offset, orderBy, predicate⟩ ih
  · intro column nested relationship arguments h
    cases h
  · intro query relationship arguments ih nested relationship' arguments' h
    cases h
    exact ih
  · intro key nested relationship arguments h
    cases h
  · intro fields ih
    exact ih
  · intro key nested relationship arguments h
    cases h
  · intro entry rest hentry hrest key nested relationship arguments h
    rcases List.mem_cons.mp h with rfl | h
    · exact hentry nested relationship arguments rfl
    · exact hrest key nested relationship arguments h
  · intro key field ih
    exact ih

end CollectionSql.Request

namespace CollectionSql.Statement

/-- A property of conditions holds if every constructor keeps it. -/
@[elab_as_elim]
theorem Condition.induction {P : Condition → Prop} (isNull : ∀ column, P (.isNull column))
    (compare : ∀ column op rhs, P (.compare column op rhs))
    (and : ∀ operands, (∀ c ∈ operands, P c) → P (.and operands))
    (or : ∀ operands, (∀ c ∈ operands, P c) → P (.or operands))
    (not : ∀ operand, P operand → P (.not operand))
    (existsIn : ∀ target predicate, (∀ c, predicate = some c → P c) →
      P (.existsIn target predicate)) (c : Condition) : P c := by
  refine @Condition.rec P (fun operands => ∀ c ∈ operands, P c)
    (fun predicate => ∀ c, predicate = some c → P c)
    isNull compare and or not existsIn ?_ ?_ ?_ ?_ c
  · intro c hc
    cases hc
  · intro d ds hd hds c hc
    rcases List.mem_cons.mp hc with rfl | hc
    · exact hd
    · exact hds c hc
  · intro c hc
    cases hc
  · intro d hd c hc
    cases hc
    exact hd

/-- A property of queries holds if every query has it whose nested queries have it. -/
@[elab_as_elim]
theorem Query.induction {P : Query → Prop}
    (step : ∀ q : Query,
      (∀ name id nested, (name, Field.relationship id nested) ∈ q.fields → P nested) → P q)
    (q : Query) : P q := by
  refine @Query.rec P (fun field => ∀ id nested, field = .relationship id nested → P nested)
    (fun fields => ∀ name id nested, (name, Field.relationship id nested) ∈ fields → P nested)
    (fun entry => ∀ id nested, entry.2 = .relationship id nested → P nested)
    ?_ ?_ ?_ ?_ ?_ ?_ q
  · intro fields aggregates filter orderBy limit offset ih
    exact step ⟨fields, aggregates, filter, orderBy, limit, offset⟩ ih
  · intro name id nested h
    cases h
  · intro id query ih id' nested h
    cases h
    exact ih
  · intro name id nested h
    cases h
  · intro entry rest hentry hrest name id nested h
    rcases List.mem_cons.mp h with rfl | h
    · exact hentry id nested rfl
    · exact hrest name id nested h
  · intro name field ih
    exact ih

end CollectionSql.Statement
