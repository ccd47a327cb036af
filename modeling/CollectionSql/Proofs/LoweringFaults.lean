import CollectionSql.Proofs.Induction
import CollectionSql.Proofs.Lowering

/-!
# Which requests have no statement

Lowering looks at relationships only: a request has a statement iff every relationship that it uses
is declared and no path element carries a condition. What is not supported otherwise (aggregates,
comparisons with columns, custom operators, existence checks in unrelated collections) is no reason
to fail here.

A request uses a relationship as an element of a path, as the target of an existence check and as a
field with a query of its own. The walk below collects all uses from left to right. An existence
check and a field use their relationship like a path element without a condition. Every function of
the lowering then fails as the checks of its uses do, one after the other, so the error of a request
is that of its first use at fault.

Results:
* `Request.Query.uses`: the uses of relationships, in the order of a walk.
* `outcome_conditionOf`, `outcome_queryOf`: lowering fails as its uses do.
* `hopOf_eq_error_iff`: what can be wrong with a use.
* `ofRequest_fails_iff`: when lowering fails, and with which error.
-/

namespace CollectionSql

/-! ## Outcomes -/

namespace Result

variable {α β : Type}

/-- Whether an operation fails, and with which error. -/
def outcome (x : Result α) : Result Unit := x.map fun _ => ()

theorem outcome_eq_ok_iff {x : Result α} : outcome x = .ok () ↔ ¬∃ e, x = .error e := by
  cases x <;> simp [outcome, Except.map]

theorem outcome_eq_error_iff {x : Result α} {e : Error} :
    outcome x = .error e ↔ x = .error e := by
  cases x <;> simp [outcome, Except.map]

/-- If the outcome of what follows is always the same, it follows the outcome of what comes
first. -/
theorem outcome_bind {x : Result α} {f : α → Result β} {y : Result Unit}
    (h : ∀ a, outcome (f a) = y) : outcome (x >>= f) = (outcome x >>= fun _ => y) := by
  cases x with
  | error e => rfl
  | ok a => exact h a

theorem outcome_bind_pure (x : Result α) (f : α → β) :
    outcome (x >>= fun a => pure (f a)) = outcome x := by
  cases x <;> rfl

theorem outcome_mapM (f : α → Result β) (xs : List α) :
    outcome (xs.mapM f) = xs.forM fun x => outcome (f x) := by
  induction xs with
  | nil => rfl
  | cons x xs ih =>
    rw [List.mapM_cons]
    apply outcome_bind
    intro y
    rw [outcome_bind_pure, ih]

theorem bind_eq_error_iff {x : Result Unit} {f : Unit → Result α} {e : Error} :
    (x >>= f) = .error e ↔ x = .error e ∨ x = .ok () ∧ f () = .error e := by
  cases x <;> simp [bind, Except.bind]

theorem forM_flatMap (f : β → Result Unit) (g : α → List β) (xs : List α) :
    (xs.flatMap g).forM f = xs.forM fun x => (g x).forM f := by
  induction xs with
  | nil => rfl
  | cons x xs ih =>
    rw [List.flatMap_cons]
    calc (g x ++ xs.flatMap g).forM f
        = ((g x).forM f >>= fun _ => (xs.flatMap g).forM f) := List.forM_append
      _ = ((g x).forM f >>= fun _ => xs.forM fun x => (g x).forM f) := by rw [ih]

/-- A list of checks fails with the error of the first that fails. -/
theorem forM_eq_error_iff {f : α → Result Unit} {xs : List α} {e : Error} :
    xs.forM f = .error e ↔ ∃ before x after, xs = before ++ x :: after ∧
      (∀ y ∈ before, f y = .ok ()) ∧ f x = .error e := by
  induction xs with
  | nil => simp [List.forM, pure, Except.pure]
  | cons x xs ih =>
    have hstep : (x :: xs).forM f = (f x >>= fun _ => xs.forM f) := rfl
    rw [hstep, bind_eq_error_iff, ih]
    constructor
    · rintro (hx | ⟨hx, before, y, after, rfl, hbefore, hy⟩)
      · exact ⟨[], x, xs, rfl, by simp, hx⟩
      · exact ⟨x :: before, y, after, rfl, List.forall_mem_cons.mpr ⟨hx, hbefore⟩, hy⟩
    · rintro ⟨before, y, after, heq, hbefore, hy⟩
      cases before with
      | nil =>
        cases heq
        exact .inl hy
      | cons z before =>
        cases heq
        obtain ⟨hz, hbefore⟩ := List.forall_mem_cons.mp hbefore
        exact .inr ⟨hz, before, y, after, rfl, hbefore, hy⟩

end Result

open Result (outcome)

/-! ## Names without a handle -/

theorem Relationships.resolve_eq_error_iff {t : Relationships} {name : String} {e : Error} :
    t.resolve name = .error e ↔
      name ∉ t.entries.keys ∧ e = .of (.unresolvableRelationship name .undeclared) := by
  rw [← Dict.index?_eq_none_iff, resolve]
  cases t.entries.index? name <;> simp [eq_comm]

/-! ## Uses of relationships -/

namespace Request

/-- A path element without a condition, or with a condition that is always true. -/
def PathElement.IsPlain (use : PathElement) : Prop :=
  use.predicate = none ∨ use.predicate = some (.and [])

/-- What is wrong with a use, given the names that are declared. The condition is looked at before
the name. -/
inductive PathElement.Fault (declared : List String) (use : PathElement) : Error → Prop
  | conditional (carries : ¬use.IsPlain) : Fault declared use (.notImplemented .pathPredicate)
  | undeclared (plain : use.IsPlain) (name : use.relationship ∉ declared) :
      Fault declared use (.of (.unresolvableRelationship use.relationship .undeclared))

theorem PathElement.exists_fault_iff {declared : List String} {use : PathElement} :
    (∃ e, use.Fault declared e) ↔ use.relationship ∉ declared ∨ ¬use.IsPlain := by
  constructor
  · rintro ⟨_, hcarries | ⟨-, hname⟩⟩
    · exact .inr hcarries
    · exact .inl hname
  · intro h
    by_cases hplain : use.IsPlain
    · exact ⟨_, .undeclared hplain (h.resolve_right (not_not.mpr hplain))⟩
    · exact ⟨_, .conditional hplain⟩

theorem PathElement.Fault.kinds {declared : List String} {use : PathElement} {e : Error}
    (h : use.Fault declared e) :
    e.kinds = [.unresolvableRelationship] ∨ e.kinds = [.notImplemented] := by
  cases h with
  | conditional => exact .inr rfl
  | undeclared => exact .inl rfl

/-- The uses in the column of a comparison. -/
def ComparisonTarget.uses : ComparisonTarget → List PathElement
  | .column _ path => path
  | .rootColumn _ => []

/-- The uses in what a column is compared with. -/
def ComparisonValue.uses : ComparisonValue → List PathElement
  | .column other => other.uses
  | .scalar _ => []
  | .var _ => []

/-- The use of the relationship in which an existence check looks. -/
def ExistsIn.uses : ExistsIn → List PathElement
  | .related relationship arguments => [⟨relationship, arguments, none⟩]
  | .unrelated _ _ => []

mutual

/-- The uses in a condition. -/
def Expression.uses : Expression → List PathElement
  | .and operands => Expression.usesOfAll operands
  | .or operands => Expression.usesOfAll operands
  | .not operand => operand.uses
  | .isNull column => column.uses
  | .compare column _ value => column.uses ++ value.uses
  | .existsIn collection predicate => collection.uses ++ Expression.usesOf? predicate

/-- The uses in a list of conditions. -/
def Expression.usesOfAll : List Expression → List PathElement
  | [] => []
  | e :: es => e.uses ++ Expression.usesOfAll es

/-- The uses in a condition that may be absent. -/
def Expression.usesOf? : Option Expression → List PathElement
  | none => []
  | some e => e.uses

end

/-- The uses in what rows are ordered by. -/
def OrderByTarget.uses : OrderByTarget → List PathElement
  | .column _ path => path
  | .singleColumnAggregate _ _ path => path
  | .starCountAggregate path => path

mutual

/-- The uses in a query. -/
def Query.uses : Query → List PathElement
  | ⟨_, fields, _, _, orderBy, predicate⟩ =>
    Field.usesOf? fields ++ (Expression.usesOf? predicate ++
      (orderBy.getD []).flatMap fun e => e.target.uses)

/-- The uses in the entries of a row, which may be absent. -/
def Field.usesOf? : Option (List (String × Field)) → List PathElement
  | none => []
  | some fields => Field.usesOfAll fields

/-- The uses in the entries of a row. -/
def Field.usesOfAll : List (String × Field) → List PathElement
  | [] => []
  | (_, field) :: rest => field.uses ++ Field.usesOfAll rest

/-- The uses in an entry of a row: that of its own relationship, and those in its query. -/
def Field.uses : Field → List PathElement
  | .column _ => []
  | .relationship query relationship arguments => ⟨relationship, arguments, none⟩ :: query.uses

end

theorem Query.uses_eq (q : Query) :
    q.uses = Field.usesOfAll (q.fields.getD []) ++ (Expression.usesOf? q.predicate ++
      (q.orderBy.getD []).flatMap fun e => e.target.uses) := by
  obtain ⟨aggregates, fields, limit, offset, orderBy, predicate⟩ := q
  rw [Query.uses]
  cases fields with
  | none => rw [Field.usesOf?, Option.getD_none, Field.usesOfAll]
  | some fields => rw [Field.usesOf?, Option.getD_some]

end Request

/-! ## Lowering fails as its uses do -/

namespace Statement

/-- Looks up the relationships of uses, one after the other. -/
def checkUses (table : Relationships) (uses : List Request.PathElement) : Result Unit :=
  uses.forM fun use => outcome (hopOf table use)

section

variable {table : Relationships}

theorem checkUses_append (uses uses' : List Request.PathElement) :
    checkUses table (uses ++ uses') = (checkUses table uses >>= fun _ => checkUses table uses') :=
  List.forM_append

/-- A chain of two steps, each of which fails as its uses do. -/
theorem outcome_bind_uses {α β : Type} {x : Result α} {f : α → Result β}
    {uses uses' : List Request.PathElement} (hx : outcome x = checkUses table uses)
    (hf : ∀ a, outcome (f a) = checkUses table uses') :
    outcome (x >>= f) = checkUses table (uses ++ uses') := by
  rw [Result.outcome_bind hf, hx, checkUses_append]

theorem outcome_bind_pure_uses {α β : Type} {x : Result α} {f : α → β}
    {uses : List Request.PathElement} (hx : outcome x = checkUses table uses) :
    outcome (x >>= fun a => pure (f a)) = checkUses table uses := by
  rw [Result.outcome_bind_pure, hx]

/-- A name outside of a path is looked up like a path element without a condition. -/
theorem outcome_resolve (name : String) (arguments : Request.Arguments) :
    outcome (table.resolve name) = checkUses table [⟨name, arguments, none⟩] := by
  show _ = (outcome (table.resolve name) >>= fun _ => pure ())
  cases table.resolve name <;> rfl

theorem outcome_pathOf (path : List Request.PathElement) :
    outcome (pathOf table path) = checkUses table path :=
  Result.outcome_mapM _ _

theorem outcome_columnOf (column : Request.ComparisonTarget) :
    outcome (columnOf table column) = checkUses table column.uses := by
  cases column with
  | column name path => exact outcome_bind_pure_uses (outcome_pathOf path)
  | rootColumn name => rfl

theorem outcome_operandOf (value : Request.ComparisonValue) :
    outcome (operandOf table value) = checkUses table value.uses := by
  cases value with
  | column other => exact outcome_bind_pure_uses (outcome_columnOf other)
  | scalar value => rfl
  | var name => rfl

theorem outcome_existsInOf (collection : Request.ExistsIn) :
    outcome (existsInOf table collection) = checkUses table collection.uses := by
  cases collection with
  | related relationship arguments => exact outcome_bind_pure_uses (outcome_resolve _ _)
  | unrelated collection arguments => rfl

theorem outcome_conditionsOf {es : List Request.Expression}
    (ih : ∀ e ∈ es, outcome (conditionOf table e) = checkUses table e.uses) :
    outcome (conditionsOf table es) = checkUses table (Request.Expression.usesOfAll es) := by
  induction es with
  | nil => rfl
  | cons e es ihes =>
    obtain ⟨he, hes⟩ := List.forall_mem_cons.mp ih
    rw [conditionsOf, Request.Expression.usesOfAll]
    exact outcome_bind_uses he fun c => outcome_bind_pure_uses (ihes hes)

theorem outcome_conditionOf?_of {p : Option Request.Expression}
    (ih : ∀ e, p = some e → outcome (conditionOf table e) = checkUses table e.uses) :
    outcome (conditionOf? table p) = checkUses table (Request.Expression.usesOf? p) := by
  cases p with
  | none => rfl
  | some e => exact outcome_bind_pure_uses (ih e rfl)

/-- A condition fails as its uses do. -/
theorem outcome_conditionOf (e : Request.Expression) :
    outcome (conditionOf table e) = checkUses table e.uses := by
  induction e using Request.Expression.induction with
  | and operands ih => exact outcome_bind_pure_uses (outcome_conditionsOf ih)
  | or operands ih => exact outcome_bind_pure_uses (outcome_conditionsOf ih)
  | not operand ih => exact outcome_bind_pure_uses ih
  | isNull column => exact outcome_bind_pure_uses (outcome_columnOf column)
  | compare column operator value =>
    exact outcome_bind_uses (outcome_columnOf column) fun _ =>
      outcome_bind_pure_uses (outcome_operandOf value)
  | existsIn collection predicate ih =>
    exact outcome_bind_uses (outcome_existsInOf collection) fun _ =>
      outcome_bind_pure_uses (outcome_conditionOf?_of ih)

theorem outcome_conditionOf? (p : Option Request.Expression) :
    outcome (conditionOf? table p) = checkUses table (Request.Expression.usesOf? p) :=
  outcome_conditionOf?_of fun e _ => outcome_conditionOf e

theorem outcome_orderOf (e : Request.OrderByElement) :
    outcome (orderOf table e) = checkUses table e.target.uses := by
  refine outcome_bind_pure_uses ?_
  cases e.target with
  | column name path => exact outcome_bind_pure_uses (outcome_pathOf path)
  | singleColumnAggregate column function path => exact outcome_bind_pure_uses (outcome_pathOf path)
  | starCountAggregate path => exact outcome_bind_pure_uses (outcome_pathOf path)

theorem outcome_fieldsOf {fields : List (String × Request.Field)}
    (ih : ∀ key nested relationship arguments,
      (key, Request.Field.relationship nested relationship arguments) ∈ fields →
        outcome (queryOf table nested) = checkUses table nested.uses) :
    outcome (fieldsOf table fields) = checkUses table (Request.Field.usesOfAll fields) := by
  induction fields with
  | nil => rfl
  | cons entry rest ihrest =>
    obtain ⟨key, field⟩ := entry
    have hfield : outcome (fieldOf table field) = checkUses table field.uses := by
      cases field with
      | column name => rfl
      | relationship nested relationship arguments =>
        exact outcome_bind_uses (outcome_resolve relationship arguments) fun _ =>
          outcome_bind_pure_uses (ih key nested relationship arguments List.mem_cons_self)
    rw [fieldsOf, Request.Field.usesOfAll]
    refine outcome_bind_uses hfield fun _ => outcome_bind_pure_uses (ihrest ?_)
    intro key nested relationship arguments hmem
    exact ih key nested relationship arguments (List.mem_cons_of_mem _ hmem)

/-- A query fails as its uses do: those of its fields, of its condition and of its ordering. -/
theorem outcome_queryOf (q : Request.Query) :
    outcome (queryOf table q) = checkUses table q.uses := by
  induction q using Request.Query.induction with
  | step q ih =>
    have horder : outcome ((q.orderBy.getD []).mapM (orderOf table)) =
        checkUses table ((q.orderBy.getD []).flatMap fun e => e.target.uses) := by
      rw [Result.outcome_mapM, checkUses, Result.forM_flatMap]
      simp only [outcome_orderOf]
      rfl
    rw [Request.Query.uses_eq]
    obtain ⟨aggregates, fields, limit, offset, orderBy, predicate⟩ := q
    rw [queryOf, fieldsOf?_eq]
    refine outcome_bind_uses (outcome_fieldsOf ih) fun _ => ?_
    exact outcome_bind_uses (outcome_conditionOf? predicate) fun _ => outcome_bind_pure_uses horder

end

/-! ## Uses at fault -/

theorem isUnconditional_iff {use : Request.PathElement} :
    isUnconditional use = true ↔ use.IsPlain := by
  obtain ⟨relationship, arguments, predicate⟩ := use
  unfold isUnconditional Request.PathElement.IsPlain
  split <;> simp_all

theorem mem_keys_relationshipsOf {declared : Dict Request.Relationship} {name : String} :
    name ∈ (relationshipsOf declared).entries.keys ↔ name ∈ declared.keys := by
  rw [entries_relationshipsOf, Dict.keys_ofPairs, List.mem_eraseDups, List.map_map]
  rfl

/-- A use has the error of its condition, or else that of its name. -/
theorem hopOf_eq_error_iff {declared : Dict Request.Relationship} {use : Request.PathElement}
    {e : Error} :
    hopOf (relationshipsOf declared) use = .error e ↔ use.Fault declared.keys e := by
  rw [hopOf]
  by_cases hplain : use.IsPlain
  · rw [if_pos (isUnconditional_iff.mpr hplain), Relationships.resolve_eq_error_iff,
      mem_keys_relationshipsOf]
    constructor
    · rintro ⟨hname, rfl⟩
      exact .undeclared hplain hname
    · rintro (hconditional | ⟨-, hname⟩)
      · exact absurd hplain hconditional
      · exact ⟨hname, rfl⟩
  · rw [if_neg (mt isUnconditional_iff.mp hplain)]
    constructor
    · rintro ⟨⟩
      exact .conditional hplain
    · rintro (- | ⟨h, -⟩)
      · rfl
      · exact absurd h hplain

theorem hopOf_succeeds_iff {declared : Dict Request.Relationship} {use : Request.PathElement} :
    outcome (hopOf (relationshipsOf declared) use) = .ok () ↔
      use.relationship ∈ declared.keys ∧ use.IsPlain := by
  simp only [Result.outcome_eq_ok_iff, hopOf_eq_error_iff, Request.PathElement.exists_fault_iff,
    not_or, not_not]

/-- **Main theorem.** A request has no statement iff it uses a relationship that it does not
declare, or a path element with a condition that is not the empty conjunction. The error is that of
the first such use, and it is about an unresolvable relationship or an unsupported feature. -/
theorem ofRequest_fails_iff (r : Request) :
    ((∃ e, ofRequest r = .error e) ↔
      ∃ use ∈ r.query.uses, use.relationship ∉ r.relationships.keys ∨ ¬use.IsPlain) ∧
    (∀ e, ofRequest r = .error e ↔ ∃ before use after, r.query.uses = before ++ use :: after ∧
      (∀ u ∈ before, u.relationship ∈ r.relationships.keys ∧ u.IsPlain) ∧
      use.Fault r.relationships.keys e) ∧
    ∀ e, ofRequest r = .error e →
      e.kinds = [.unresolvableRelationship] ∨ e.kinds = [.notImplemented] := by
  have houtcome : outcome (ofRequest r) =
      checkUses (relationshipsOf r.relationships) r.query.uses :=
    outcome_bind_pure_uses (outcome_queryOf r.query)
  have herror : ∀ e, ofRequest r = .error e ↔ ∃ before use after,
      r.query.uses = before ++ use :: after ∧
      (∀ u ∈ before, u.relationship ∈ r.relationships.keys ∧ u.IsPlain) ∧
      use.Fault r.relationships.keys e := by
    intro e
    rw [← Result.outcome_eq_error_iff, houtcome, checkUses, Result.forM_eq_error_iff]
    simp only [Result.outcome_eq_error_iff, hopOf_eq_error_iff, hopOf_succeeds_iff]
  refine ⟨?_, herror, ?_⟩
  · rw [← not_iff_not, ← Result.outcome_eq_ok_iff, houtcome, checkUses, Result.forM_eq_ok]
    simp only [hopOf_succeeds_iff, not_exists, not_and, not_or, not_not]
  · intro e he
    obtain ⟨_, _, _, -, -, hfault⟩ := (herror e).mp he
    exact hfault.kinds

/-- A request full of what is not supported, and without relationships, has a statement. -/
example : ∃ s, ofRequest {
    collection := "users"
    query := {
      aggregates := some [("count", .starCount)]
      fields := none
      limit := none
      offset := none
      orderBy := some [⟨.asc, .starCountAggregate []⟩]
      predicate := some (.and [
        .compare (.column "id" []) "_near" (.column (.rootColumn "id")),
        .existsIn (.unrelated "orders" []) none]) }
    arguments := []
    relationships := []
    variableSets := none } = .ok s := ⟨_, rfl⟩

end Statement

end CollectionSql
