import CollectionSql.Plan
import CollectionSql.Proofs.Compilation
import CollectionSql.Proofs.Induction
import CollectionSql.Proofs.Lowering
import CollectionSql.Proofs.Schemas

/-!
# Handles lead to the relationships that were named

A request mentions relationships by name: in its fields, in existence checks, and in the paths of
columns that are compared or ordered by. A statement has a handle at each of these places. Both are
walked in the same way here, and every mention is kept with its site, the steps that lead to it from
the outside. The names of a request and the handles of its statement then agree site by site, and
each handle leads to the relationship that the request declares under the name.

Compilation looks up no other handles than those in the statement, so it never meets one that leads
nowhere.

Results:
* `Request.Query.mentions`, `Statement.Query.mentions`: what is mentioned where.
* `queryOf_mentions`: names and handles agree, and each handle is what its name resolves to.
* `level_valid`: with handles that lead somewhere, a level never fails for want of a relationship.
* `ofRequest_mentions`: both facts for the statement of a request.
-/

namespace CollectionSql

/-! ## Sites -/

/-- One step from a part of a query into a part of that part. -/
inductive Step where
  /-- To the entry of the rows under a key. -/
  | entry (key : String)
  /-- To the condition on the rows. -/
  | filter
  /-- To one criterion of the ordering. -/
  | order (index : Nat)
  /-- To one operand of a conjunction or a disjunction. -/
  | operand (index : Nat)
  /-- To what is negated. -/
  | negated
  /-- To the column of a comparison. -/
  | column
  /-- To what the column is compared with. -/
  | value
  /-- To where an existence check looks. -/
  | target
  /-- To the condition of an existence check. -/
  | predicate
  /-- To one element of a path. -/
  | hop (index : Nat)
deriving DecidableEq, Repr

/-- Where in a query something stands: the steps that lead there from the outside. -/
abbrev Site := List Step

/-- What is mentioned in a part of a query, each with its site, in the order of a walk. -/
abbrev Mentions (α : Type) := List (Site × α)

namespace Mentions

variable {α β : Type}

/-- What a part mentions, seen from one step outside. -/
def under (step : Step) (ms : Mentions α) : Mentions α := ms.map fun m => (step :: m.1, m.2)

/-- What parts mention that are told apart by their number. -/
def numbered (step : Nat → Step) : Nat → List (Mentions α) → Mentions α
  | _, [] => []
  | i, part :: parts => under (step i) part ++ numbered step (i + 1) parts

/-- The elements of a path. -/
def hops (path : List α) : Mentions α := numbered .hop 0 (path.map fun a => [([], a)])

/-- Two walks meet the same sites in the same order, and what they find there is related. -/
def Agree (R : α → β → Prop) (ms : Mentions α) (ns : Mentions β) : Prop :=
  List.Forall₂ (fun m n => m.1 = n.1 ∧ R m.2 n.2) ms ns

variable {R : α → β → Prop}

theorem agree_nil : Agree R [] [] := .nil

theorem agree_here {a : α} {b : β} (h : R a b) : Agree R [([], a)] [([], b)] := .cons ⟨rfl, h⟩ .nil

theorem Agree.append {ms ms' : Mentions α} {ns ns' : Mentions β} (h : Agree R ms ns)
    (h' : Agree R ms' ns') : Agree R (ms ++ ms') (ns ++ ns') :=
  List.rel_append h h'

theorem Agree.under {ms : Mentions α} {ns : Mentions β} (h : Agree R ms ns) (step : Step) :
    Agree R (under step ms) (under step ns) := by
  unfold Agree Mentions.under
  rw [List.forall₂_map_left_iff, List.forall₂_map_right_iff]
  refine h.imp ?_
  rintro m n ⟨hsite, hrelated⟩
  exact ⟨congrArg (step :: ·) hsite, hrelated⟩

theorem agree_numbered {parts : List (Mentions α)} {parts' : List (Mentions β)}
    (h : List.Forall₂ (Agree R) parts parts') (step : Nat → Step) (i : Nat) :
    Agree R (numbered step i parts) (numbered step i parts') := by
  induction h generalizing i with
  | nil => exact agree_nil
  | cons hpart _ ih => exact (hpart.under (step i)).append (ih (i + 1))

theorem agree_hops {path : List α} {path' : List β} (h : List.Forall₂ R path path') :
    Agree R (hops path) (hops path') := by
  refine agree_numbered ?_ .hop 0
  rw [List.forall₂_map_left_iff, List.forall₂_map_right_iff]
  exact h.imp fun _ _ => agree_here

theorem Agree.imp {S : α → β → Prop} (hRS : ∀ a b, R a b → S a b) {ms : Mentions α}
    {ns : Mentions β} (h : Agree R ms ns) : Agree S ms ns :=
  List.Forall₂.imp (fun m n hmn => ⟨hmn.1, hRS m.2 n.2 hmn.2⟩) h

/-- Everything that is mentioned satisfies `P`. -/
def All (P : β → Prop) (ns : Mentions β) : Prop := ∀ n ∈ ns, P n.2

variable {P : β → Prop}

theorem all_append {ns ns' : Mentions β} : All P (ns ++ ns') ↔ All P ns ∧ All P ns' :=
  List.forall_mem_append

theorem all_under {step : Step} {ns : Mentions β} : All P (under step ns) ↔ All P ns :=
  List.forall_mem_map

theorem all_numbered {step : Nat → Step} {i : Nat} {parts : List (Mentions β)} :
    All P (numbered step i parts) ↔ ∀ part ∈ parts, All P part := by
  induction parts generalizing i with
  | nil => simp [numbered, All]
  | cons part parts ih => rw [numbered, all_append, all_under, ih, List.forall_mem_cons]

theorem all_hops {path : List β} : All P (hops path) ↔ ∀ b ∈ path, P b := by
  rw [hops, all_numbered, List.forall_mem_map]
  simp [All]

theorem Agree.all_right (hRP : ∀ a b, R a b → P b) {ms : Mentions α} {ns : Mentions β}
    (h : Agree R ms ns) : All P ns := by
  induction h with
  | nil => exact fun n hn => nomatch hn
  | cons hmn _ ih => exact List.forall_mem_cons.mpr ⟨hRP _ _ hmn.2, ih⟩

end Mentions

open Mentions (under numbered hops Agree All)

/-! ## What requests mention -/

namespace Request

/-- The names in the column of a comparison. -/
def ComparisonTarget.mentions : ComparisonTarget → Mentions String
  | .column _ path => hops (path.map PathElement.relationship)
  | .rootColumn _ => []

/-- The names in what a column is compared with. -/
def ComparisonValue.mentions : ComparisonValue → Mentions String
  | .column other => other.mentions
  | .scalar _ => []
  | .var _ => []

/-- The name of the relationship in which an existence check looks. -/
def ExistsIn.mentions : ExistsIn → Mentions String
  | .related relationship _ => [([], relationship)]
  | .unrelated _ _ => []

mutual

/-- The names in a condition. -/
def Expression.mentions : Expression → Mentions String
  | .and operands => numbered .operand 0 (Expression.mentionsOfAll operands)
  | .or operands => numbered .operand 0 (Expression.mentionsOfAll operands)
  | .not operand => under .negated operand.mentions
  | .isNull column => under .column column.mentions
  | .compare column _ value => under .column column.mentions ++ under .value value.mentions
  | .existsIn collection predicate =>
    under .target collection.mentions ++ under .predicate (Expression.mentionsOf? predicate)

/-- The names in each of a list of conditions. -/
def Expression.mentionsOfAll : List Expression → List (Mentions String)
  | [] => []
  | e :: es => e.mentions :: Expression.mentionsOfAll es

/-- The names in a condition that may be absent. -/
def Expression.mentionsOf? : Option Expression → Mentions String
  | none => []
  | some e => e.mentions

end

/-- The names in what rows are ordered by. -/
def OrderByTarget.mentions : OrderByTarget → Mentions String
  | .column _ path => hops (path.map PathElement.relationship)
  | .singleColumnAggregate _ _ path => hops (path.map PathElement.relationship)
  | .starCountAggregate path => hops (path.map PathElement.relationship)

/-- The names in an ordering. -/
def OrderByElement.mentionsOfAll (orderBy : List OrderByElement) : Mentions String :=
  numbered .order 0 (orderBy.map fun e => e.target.mentions)

mutual

/-- The names in a query. -/
def Query.mentions : Query → Mentions String
  | ⟨_, fields, _, _, orderBy, predicate⟩ =>
    Field.mentionsOf? fields ++ under .filter (Expression.mentionsOf? predicate) ++
      OrderByElement.mentionsOfAll (orderBy.getD [])

/-- The names in the entries of a row, which may be absent. -/
def Field.mentionsOf? : Option (List (String × Field)) → Mentions String
  | none => []
  | some fields => Field.mentionsOfAll fields

/-- The names in the entries of a row. -/
def Field.mentionsOfAll : List (String × Field) → Mentions String
  | [] => []
  | (key, field) :: rest => under (.entry key) field.mentions ++ Field.mentionsOfAll rest

/-- The names in an entry of a row: that of its relationship, and those in its query. -/
def Field.mentions : Field → Mentions String
  | .column _ => []
  | .relationship query relationship _ => ([], relationship) :: query.mentions

end

theorem Query.mentions_eq (q : Query) :
    q.mentions = Field.mentionsOfAll (q.fields.getD []) ++
      under .filter (Expression.mentionsOf? q.predicate) ++
      OrderByElement.mentionsOfAll (q.orderBy.getD []) := by
  obtain ⟨aggregates, fields, limit, offset, orderBy, predicate⟩ := q
  rw [Query.mentions]
  cases fields with
  | none => rw [Field.mentionsOf?, Option.getD_none, Field.mentionsOfAll]
  | some fields => rw [Field.mentionsOf?, Option.getD_some]

end Request

/-! ## What statements mention -/

namespace Statement

/-- The handles in a column reference. -/
def ColumnRef.mentions (column : ColumnRef) : Mentions RelationshipId := hops column.path

/-- The handles in the right side of a comparison. -/
def Operand.mentions : Operand → Mentions RelationshipId
  | .value _ => []
  | .var _ => []
  | .column other => other.mentions

/-- The handle of the relationship in which an existence check looks. -/
def ExistsIn.mentions : ExistsIn → Mentions RelationshipId
  | .related relationship => [([], relationship)]
  | .unrelated _ => []

mutual

/-- The handles in a condition. -/
def Condition.mentions : Condition → Mentions RelationshipId
  | .isNull column => under .column column.mentions
  | .compare column _ rhs => under .column column.mentions ++ under .value rhs.mentions
  | .and operands => numbered .operand 0 (Condition.mentionsOfAll operands)
  | .or operands => numbered .operand 0 (Condition.mentionsOfAll operands)
  | .not operand => under .negated operand.mentions
  | .existsIn target predicate =>
    under .target target.mentions ++ under .predicate (Condition.mentionsOf? predicate)

/-- The handles in each of a list of conditions. -/
def Condition.mentionsOfAll : List Condition → List (Mentions RelationshipId)
  | [] => []
  | c :: cs => c.mentions :: Condition.mentionsOfAll cs

/-- The handles in a condition that may be absent. -/
def Condition.mentionsOf? : Option Condition → Mentions RelationshipId
  | none => []
  | some c => c.mentions

end

/-- The handles in what rows are ordered by. -/
def OrderTarget.mentions : OrderTarget → Mentions RelationshipId
  | .column ref => ref.mentions
  | .singleColumnAggregate _ _ path => hops path
  | .starCountAggregate path => hops path

/-- The handles in an ordering. -/
def Order.mentionsOfAll (orderBy : List Order) : Mentions RelationshipId :=
  numbered .order 0 (orderBy.map fun o => o.target.mentions)

mutual

/-- The handles in a query. -/
def Query.mentions : Query → Mentions RelationshipId
  | ⟨fields, _, filter, orderBy, _, _⟩ =>
    Field.mentionsOfAll fields ++ under .filter (Condition.mentionsOf? filter) ++
      Order.mentionsOfAll orderBy

/-- The handles in the entries of a row. -/
def Field.mentionsOfAll : List (String × Field) → Mentions RelationshipId
  | [] => []
  | (key, field) :: rest => under (.entry key) field.mentions ++ Field.mentionsOfAll rest

/-- The handles in an entry of a row: that of its relationship, and those in its query. -/
def Field.mentions : Field → Mentions RelationshipId
  | .column _ => []
  | .relationship relationship query => ([], relationship) :: query.mentions

end

theorem Query.mentions_eq (q : Query) :
    q.mentions = Field.mentionsOfAll q.fields ++ under .filter (Condition.mentionsOf? q.filter) ++
      Order.mentionsOfAll q.orderBy := by
  cases q
  rw [Query.mentions]

theorem Condition.mentionsOfAll_eq (cs : List Condition) :
    Condition.mentionsOfAll cs = cs.map Condition.mentions := by
  induction cs with
  | nil => rw [Condition.mentionsOfAll, List.map_nil]
  | cons c cs ih => rw [Condition.mentionsOfAll, List.map_cons, ih]

/-! ## Names and handles agree -/

section

variable {table : Relationships}

/-- A handle is what a name resolves to. -/
def Resolves (table : Relationships) (name : String) (id : RelationshipId) : Prop :=
  table.resolve name = .ok id

theorem pathOf_mentions {path : List Request.PathElement} {ids : List RelationshipId}
    (h : pathOf table path = .ok ids) :
    Agree (Resolves table) (hops (path.map Request.PathElement.relationship)) (hops ids) := by
  apply Mentions.agree_hops
  rw [List.forall₂_map_left_iff]
  exact (pathOf_eq_ok_iff.mp h).imp fun _ _ hhop => hhop.2

theorem columnOf_mentions {target : Request.ComparisonTarget} {column : ColumnRef}
    (h : columnOf table target = .ok column) :
    Agree (Resolves table) target.mentions column.mentions := by
  cases target with
  | column name path =>
    simp only [columnOf, Result.bind_eq_ok, Result.pure_eq_ok] at h
    obtain ⟨ids, hids, rfl⟩ := h
    exact pathOf_mentions hids
  | rootColumn name =>
    cases h
    exact Mentions.agree_nil

theorem operandOf_mentions {value : Request.ComparisonValue} {rhs : Operand}
    (h : operandOf table value = .ok rhs) :
    Agree (Resolves table) value.mentions rhs.mentions := by
  cases value with
  | column column =>
    simp only [operandOf, Result.bind_eq_ok, Result.pure_eq_ok] at h
    obtain ⟨column', hcolumn, rfl⟩ := h
    exact columnOf_mentions hcolumn
  | scalar value =>
    cases h
    exact Mentions.agree_nil
  | var name =>
    cases h
    exact Mentions.agree_nil

theorem existsInOf_mentions {collection : Request.ExistsIn} {target : ExistsIn}
    (h : existsInOf table collection = .ok target) :
    Agree (Resolves table) collection.mentions target.mentions := by
  cases collection with
  | related relationship arguments =>
    simp only [existsInOf, Result.bind_eq_ok, Result.pure_eq_ok] at h
    obtain ⟨id, hid, rfl⟩ := h
    exact Mentions.agree_here hid
  | unrelated name arguments =>
    cases h
    exact Mentions.agree_nil

theorem conditionsOf_mentions {es : List Request.Expression} {cs : List Condition}
    (ih : ∀ e ∈ es, ∀ c, conditionOf table e = .ok c →
      Agree (Resolves table) e.mentions c.mentions)
    (h : conditionsOf table es = .ok cs) :
    List.Forall₂ (Agree (Resolves table)) (Request.Expression.mentionsOfAll es)
      (Condition.mentionsOfAll cs) := by
  have hall := conditionsOf_eq_ok_iff.mp h
  clear h
  induction hall with
  | nil =>
    rw [Request.Expression.mentionsOfAll, Condition.mentionsOfAll]
    exact .nil
  | cons hc _ ihall =>
    obtain ⟨hfirst, hrest⟩ := List.forall_mem_cons.mp ih
    rw [Request.Expression.mentionsOfAll, Condition.mentionsOfAll]
    exact .cons (hfirst _ hc) (ihall hrest)

theorem conditionOf?_mentions {p : Option Request.Expression} {filter : Option Condition}
    (ih : ∀ e, p = some e → ∀ c, conditionOf table e = .ok c →
      Agree (Resolves table) e.mentions c.mentions)
    (h : conditionOf? table p = .ok filter) :
    Agree (Resolves table) (Request.Expression.mentionsOf? p) (Condition.mentionsOf? filter) := by
  cases conditionOf?_eq_ok_iff.mp h with
  | none =>
    rw [Request.Expression.mentionsOf?, Condition.mentionsOf?]
    exact Mentions.agree_nil
  | some hc =>
    rw [Request.Expression.mentionsOf?, Condition.mentionsOf?]
    exact ih _ rfl _ hc

/-- The names of a condition and its handles agree. -/
theorem conditionOf_mentions (e : Request.Expression) {c : Condition}
    (h : conditionOf table e = .ok c) : Agree (Resolves table) e.mentions c.mentions := by
  induction e using Request.Expression.induction generalizing c with
  | and operands ih =>
    simp only [conditionOf, Result.bind_eq_ok, Result.pure_eq_ok] at h
    obtain ⟨cs, hcs, rfl⟩ := h
    rw [Request.Expression.mentions, Condition.mentions]
    exact Mentions.agree_numbered (conditionsOf_mentions (fun e he c => ih e he) hcs) .operand 0
  | or operands ih =>
    simp only [conditionOf, Result.bind_eq_ok, Result.pure_eq_ok] at h
    obtain ⟨cs, hcs, rfl⟩ := h
    rw [Request.Expression.mentions, Condition.mentions]
    exact Mentions.agree_numbered (conditionsOf_mentions (fun e he c => ih e he) hcs) .operand 0
  | not operand ih =>
    simp only [conditionOf, Result.bind_eq_ok, Result.pure_eq_ok] at h
    obtain ⟨d, hd, rfl⟩ := h
    rw [Request.Expression.mentions, Condition.mentions]
    exact (ih hd).under .negated
  | isNull column =>
    simp only [conditionOf, Result.bind_eq_ok, Result.pure_eq_ok] at h
    obtain ⟨column', hcolumn, rfl⟩ := h
    rw [Request.Expression.mentions, Condition.mentions]
    exact (columnOf_mentions hcolumn).under .column
  | compare column operator value =>
    simp only [conditionOf, Result.bind_eq_ok, Result.pure_eq_ok] at h
    obtain ⟨column', hcolumn, rhs, hrhs, rfl⟩ := h
    rw [Request.Expression.mentions, Condition.mentions]
    exact ((columnOf_mentions hcolumn).under .column).append
      ((operandOf_mentions hrhs).under .value)
  | existsIn collection predicate ih =>
    simp only [conditionOf, Result.bind_eq_ok, Result.pure_eq_ok] at h
    obtain ⟨target, htarget, inner, hinner, rfl⟩ := h
    rw [Request.Expression.mentions, Condition.mentions]
    exact ((existsInOf_mentions htarget).under .target).append
      ((conditionOf?_mentions (fun e he c => ih e he) hinner).under .predicate)

theorem orderOf_mentions {e : Request.OrderByElement} {order : Order}
    (h : orderOf table e = .ok order) :
    Agree (Resolves table) e.target.mentions order.target.mentions := by
  simp only [orderOf, Result.bind_eq_ok, Result.pure_eq_ok] at h
  obtain ⟨target, htarget, rfl⟩ := h
  cases he : e.target with
  | column name path =>
    simp only [he, orderTargetOf, Result.bind_eq_ok, Result.pure_eq_ok] at htarget
    obtain ⟨ids, hids, rfl⟩ := htarget
    exact pathOf_mentions hids
  | singleColumnAggregate column function path =>
    simp only [he, orderTargetOf, Result.bind_eq_ok, Result.pure_eq_ok] at htarget
    obtain ⟨ids, hids, rfl⟩ := htarget
    exact pathOf_mentions hids
  | starCountAggregate path =>
    simp only [he, orderTargetOf, Result.bind_eq_ok, Result.pure_eq_ok] at htarget
    obtain ⟨ids, hids, rfl⟩ := htarget
    exact pathOf_mentions hids

theorem fieldsOf_mentions {fields : List (String × Request.Field)}
    {lowered : List (String × Field)}
    (ih : ∀ f ∈ fields, ∀ g, fieldOf table f.2 = .ok g →
      Agree (Resolves table) f.2.mentions g.mentions)
    (h : fieldsOf table fields = .ok lowered) :
    Agree (Resolves table) (Request.Field.mentionsOfAll fields)
      (Field.mentionsOfAll lowered) := by
  have hall := fieldsOf_eq_ok_iff.mp h
  clear h
  induction hall with
  | nil =>
    rw [Request.Field.mentionsOfAll, Field.mentionsOfAll]
    exact Mentions.agree_nil
  | @cons f g fs gs hg _ ihall =>
    obtain ⟨hfirst, hrest⟩ := List.forall_mem_cons.mp ih
    obtain ⟨key, field⟩ := f
    obtain ⟨_, field'⟩ := g
    obtain ⟨rfl, hfield⟩ := hg
    rw [Request.Field.mentionsOfAll, Field.mentionsOfAll]
    exact ((hfirst _ hfield).under _).append (ihall hrest)

/-- The names of a query and its handles agree. -/
theorem queryOf_mentions (q : Request.Query) {lowered : Query}
    (h : queryOf table q = .ok lowered) :
    Agree (Resolves table) q.mentions lowered.mentions := by
  induction q using Request.Query.induction generalizing lowered with
  | step q ih =>
    obtain ⟨fields, filter, orderBy, hfields, hfilter, horderBy, rfl⟩ := queryOf_eq_ok_iff.mp h
    rw [Request.Query.mentions_eq, Query.mentions_eq]
    have hentries : Agree (Resolves table) (Request.Field.mentionsOfAll (q.fields.getD []))
        (Field.mentionsOfAll fields) := by
      refine fieldsOf_mentions ?_ hfields
      rintro ⟨key, field⟩ hfield g hg
      cases field with
      | column name =>
        cases hg
        exact Mentions.agree_nil
      | relationship nested relationship arguments =>
        simp only [fieldOf, Result.bind_eq_ok, Result.pure_eq_ok] at hg
        obtain ⟨id, hid, query, hquery, rfl⟩ := hg
        have hnested := ih key nested relationship arguments hfield hquery
        rw [Request.Field.mentions, Field.mentions]
        exact .cons ⟨rfl, hid⟩ hnested
    have hcondition := conditionOf?_mentions (fun e _ c hc => conditionOf_mentions e hc) hfilter
    have hordering : Agree (Resolves table)
        (Request.OrderByElement.mentionsOfAll (q.orderBy.getD []))
        (Order.mentionsOfAll orderBy) := by
      refine Mentions.agree_numbered ?_ .order 0
      rw [List.forall₂_map_left_iff, List.forall₂_map_right_iff]
      exact horderBy.imp fun _ _ => orderOf_mentions
    exact (hentries.append (hcondition.under .filter)).append hordering

end

end Statement

/-! ## Compilation looks up the handles of its statement -/

/-- The error of looking up a handle that no relationship has. -/
def Error.invalidHandle : Error := .of (.unresolvableRelationship "" .unknownHandle)

/-- The operation does not fail for want of a relationship. -/
def Result.Valid {α : Type} (x : Result α) : Prop := Result.FailsWith (· ≠ .invalidHandle) x

theorem Result.valid_configuration {α : Type} (fault : ConfigurationFault) :
    Result.Valid (.error (.configuration fault) : Result α) :=
  Result.failsWith_error nofun

theorem Result.valid_notImplemented {α : Type} (feature : Feature) :
    Result.Valid (.error (.notImplemented feature) : Result α) :=
  Result.failsWith_error nofun

namespace Relationships

/-- A lookup fails for want of a relationship exactly if the handle is beyond the table. -/
theorem get_eq_invalidHandle_iff {t : Relationships} {id : RelationshipId} :
    t.get id = .error .invalidHandle ↔ t.size ≤ id.index := by
  have hsize : t.get? id = none ↔ t.size ≤ id.index := by
    rw [get?, List.getElem?_eq_none_iff, Dict.values, List.length_map, size]
  rw [← hsize, get]
  cases t.get? id with
  | none => simp [Error.invalidHandle]
  | some r => simp

theorem lt_size_of_get? {t : Relationships} {id : RelationshipId} {r : Relationship}
    (h : t.get? id = some r) : id.index < t.size := by
  have hlt := (List.getElem?_eq_some_iff.mp h).1
  rwa [Dict.values, List.length_map] at hlt

theorem get_valid {t : Relationships} {id : RelationshipId} (h : id.index < t.size) :
    Result.Valid (t.get id) := by
  rintro e he rfl
  exact Nat.lt_irrefl _ (Nat.lt_of_lt_of_le h (get_eq_invalidHandle_iff.mp he))

end Relationships

namespace Selection

open Statement (ColumnRef Condition Operand Order Query)

/-- Every handle that is mentioned is in the table. -/
def InTable (env : Env) (ms : Mentions RelationshipId) : Prop :=
  All (fun id => id.index < env.relationships.size) ms

section

variable {env : Env}

theorem collection_valid (schema : Schema) (name : String) :
    Result.Valid (schema.collection name) := by
  unfold Schema.collection
  split
  · exact Result.failsWith_ok _
  · exact Result.valid_configuration _

theorem column_valid (o : Occurrence) (name : String) : Result.Valid (o.column name) := by
  refine Result.FailsWith.bind ?_ fun _ _ => Result.failsWith_ok _
  unfold Collection.field
  split
  · exact Result.failsWith_ok _
  · exact Result.valid_configuration _

theorem hop_valid (o : Occurrence) {id : RelationshipId} (js : Joins)
    (h : id.index < env.relationships.size) : Result.Valid (hop env o id js) := by
  refine (Relationships.get_valid h).bind fun r _ => ?_
  refine (collection_valid env.schema r.targetCollection).bind fun target _ => ?_
  -- without a foreign key the error names the relationship, which was found
  cases chooseKey env.schema r o.collection target with
  | none => exact Result.failsWith_error (by simp [Error.invalidHandle, Error.of])
  | some key => exact Result.failsWith_ok _

theorem followPath_valid {path : List RelationshipId} (o : Occurrence) (js : Joins)
    (h : ∀ id ∈ path, id.index < env.relationships.size) :
    Result.Valid (followPath env path o js) := by
  induction path generalizing o js with
  | nil => exact Result.failsWith_ok _
  | cons id ids ih =>
    obtain ⟨hid, hids⟩ := List.forall_mem_cons.mp h
    exact (hop_valid o js hid).bind fun next _ => ih next.1 next.2 hids

theorem columnExpr_valid {c : ColumnRef} (o : Occurrence) (js : Joins)
    (h : InTable env c.mentions) : Result.Valid (columnExpr env o c js) := by
  unfold columnExpr
  cases c.scope with
  | current =>
    refine (followPath_valid o js (Mentions.all_hops.mp h)).bind fun next _ => ?_
    exact (column_valid next.1 c.name).bind fun _ _ => Result.failsWith_ok _
  | root => exact (column_valid _ c.name).bind fun _ _ => Result.failsWith_ok _

theorem operandExpr_valid (rhs : Operand) : Result.Valid (operandExpr env rhs) := by
  cases rhs with
  | value v => exact Result.failsWith_ok _
  | var name =>
    refine Result.FailsWith.bind ?_ fun _ _ => Result.failsWith_ok _
    unfold VariableSet.get
    split
    · exact Result.failsWith_ok _
    · exact Result.failsWith_error nofun
  | column c => exact Result.valid_notImplemented _

theorem operatorOf_valid (op : ComparisonOperator) : Result.Valid (operatorOf op) := by
  cases op with
  | known op => exact Result.failsWith_ok _
  | custom name => exact Result.valid_notImplemented _

theorem existsRelationship_valid {target : Statement.ExistsIn}
    (h : InTable env target.mentions) : Result.Valid (existsRelationship env target) := by
  cases target with
  | related id => exact Relationships.get_valid (h _ (List.mem_singleton.mpr rfl))
  | unrelated name => exact Result.valid_notImplemented _

theorem correlation_valid (r : Relationship) (parent child : Occurrence) :
    Result.Valid (correlation r parent child) := by
  refine Result.failsWith_mapM fun pair _ => ?_
  refine (column_valid parent pair.1).bind fun _ _ => ?_
  exact (column_valid child pair.2).bind fun _ _ => Result.failsWith_ok _

theorem conditions_valid {cs : List Condition} {o : Occurrence}
    (ih : ∀ c ∈ cs, ∀ js, Result.Valid (condition env c o js)) (js : Joins) :
    Result.Valid (conditions env cs o js) := by
  induction cs generalizing js with
  | nil => exact Result.failsWith_ok _
  | cons c cs ihcs =>
    obtain ⟨hc, hcs⟩ := List.forall_mem_cons.mp ih
    refine (hc js).bind fun first _ => ?_
    exact (ihcs hcs first.2).bind fun _ _ => Result.failsWith_ok _

theorem optionalCondition_valid {p : Option Condition} {o : Occurrence}
    (ih : ∀ c, p = some c → ∀ js, Result.Valid (condition env c o js)) (js : Joins) :
    Result.Valid (optionalCondition env p o js) := by
  cases p with
  | none => exact Result.failsWith_ok _
  | some c => exact (ih c rfl js).bind fun _ _ => Result.failsWith_ok _

theorem inTable_operands {cs : List Condition}
    (h : InTable env (Mentions.numbered .operand 0 (Condition.mentionsOfAll cs))) :
    ∀ c ∈ cs, InTable env c.mentions := by
  rw [Condition.mentionsOfAll_eq] at h
  exact List.forall_mem_map.mp (Mentions.all_numbered.mp h)

/-- With handles that lead somewhere, a condition never fails for want of a relationship. -/
theorem condition_valid (c : Condition) (h : InTable env c.mentions) (o : Occurrence)
    (js : Joins) : Result.Valid (condition env c o js) := by
  induction c using Condition.induction generalizing o js with
  | isNull column =>
    rw [Condition.mentions] at h
    rw [condition]
    have hcolumn := Mentions.all_under.mp h
    exact (columnExpr_valid o js hcolumn).bind fun _ _ => Result.failsWith_ok _
  | compare column op rhs =>
    rw [Condition.mentions] at h
    rw [condition]
    have hcolumn := Mentions.all_under.mp (Mentions.all_append.mp h).1
    refine (operandExpr_valid rhs).bind fun _ _ => ?_
    refine (columnExpr_valid o js hcolumn).bind fun _ _ => ?_
    exact (operatorOf_valid op).bind fun _ _ => Result.failsWith_ok _
  | and operands ih =>
    rw [Condition.mentions] at h
    rw [condition]
    have heach := fun c hc js => ih c hc (inTable_operands h c hc) o js
    exact (conditions_valid heach js).bind fun _ _ => Result.failsWith_ok _
  | or operands ih =>
    rw [Condition.mentions] at h
    rw [condition]
    have heach := fun c hc js => ih c hc (inTable_operands h c hc) o js
    exact (conditions_valid heach js).bind fun _ _ => Result.failsWith_ok _
  | not operand ih =>
    rw [Condition.mentions] at h
    rw [condition]
    exact (ih (Mentions.all_under.mp h) o js).bind fun _ _ => Result.failsWith_ok _
  | existsIn target predicate ih =>
    rw [Condition.mentions] at h
    rw [condition]
    obtain ⟨htarget, hpredicate⟩ := Mentions.all_append.mp h
    refine (existsRelationship_valid (Mentions.all_under.mp htarget)).bind fun r _ => ?_
    refine (collection_valid env.schema r.targetCollection).bind fun c _ => ?_
    refine (correlation_valid r o _).bind fun tie _ => ?_
    refine (optionalCondition_valid (fun d hd js => ?_) _).bind fun _ _ => Result.failsWith_ok _
    have hinner := Mentions.all_under.mp hpredicate
    rw [hd, Condition.mentionsOf?] at hinner
    exact ih d hd hinner _ js

theorem orderExprs_valid {orders : List Order} (o : Occurrence) (js : Joins)
    (h : InTable env (Order.mentionsOfAll orders)) :
    Result.Valid (orderExprs env o orders js) := by
  have heach : ∀ order ∈ orders, InTable env order.target.mentions :=
    List.forall_mem_map.mp (Mentions.all_numbered.mp h)
  clear h
  induction orders generalizing js with
  | nil => exact Result.failsWith_ok _
  | cons order orders ih =>
    obtain ⟨horder, horders⟩ := List.forall_mem_cons.mp heach
    have hfirst : Result.Valid (orderExpr env o order js) := by
      unfold orderExpr
      cases htarget : order.target with
      | column c =>
        rw [htarget] at horder
        exact (columnExpr_valid o js horder).bind fun _ _ => Result.failsWith_ok _
      | singleColumnAggregate column function path => exact Result.valid_notImplemented _
      | starCountAggregate path => exact Result.valid_notImplemented _
    refine hfirst.bind fun first _ => ?_
    exact (ih first.2 horders).bind fun _ _ => Result.failsWith_ok _

theorem entries_valid {fields : List (String × Statement.Field)} {o : Occurrence}
    (h : InTable env (Statement.Field.mentionsOfAll fields))
    (ih : ∀ f ∈ fields, InTable env f.2.mentions → Result.Valid (entry env f.2 o f.1)) :
    Result.Valid (entries env fields o) := by
  induction fields with
  | nil => exact Result.failsWith_ok _
  | cons f rest ihrest =>
    obtain ⟨key, field⟩ := f
    obtain ⟨hfirst, hrest⟩ := List.forall_mem_cons.mp ih
    rw [Statement.Field.mentionsOfAll] at h
    obtain ⟨hfield, hfields⟩ := Mentions.all_append.mp h
    refine (hfirst (Mentions.all_under.mp hfield)).bind fun _ _ => ?_
    exact (ihrest hfields hrest).bind fun _ _ => Result.failsWith_ok _

/-- With handles that lead somewhere, a level never fails for want of a relationship. -/
theorem level_valid (q : Query) (h : InTable env q.mentions) (o : Occurrence)
    (tie : List Sql.Expr) (single : Bool) : Result.Valid (level env q o tie single) := by
  induction q using Query.induction generalizing o tie single with
  | step q ih =>
    rw [Query.mentions_eq] at h
    obtain ⟨hparts, horders⟩ := Mentions.all_append.mp h
    obtain ⟨hfields, hfilter⟩ := Mentions.all_append.mp hparts
    have hentries : Result.Valid (entries env q.fields o) := by
      refine entries_valid hfields ?_
      rintro ⟨key, field⟩ hfield hmentions
      cases field with
      | column name => exact (column_valid o name).bind fun _ _ => Result.failsWith_ok _
      | relationship id nested =>
        rw [Statement.Field.mentions] at hmentions
        obtain ⟨hid, hnested⟩ := List.forall_mem_cons.mp hmentions
        rw [entry]
        refine (Relationships.get_valid hid).bind fun r _ => ?_
        refine (collection_valid env.schema r.targetCollection).bind fun c _ => ?_
        refine (correlation_valid r o _).bind fun tie _ => ?_
        exact (ih key id nested hfield hnested _ tie _).bind fun _ _ => Result.failsWith_ok _
    have hcondition : Result.Valid (optionalCondition env q.filter o .empty) := by
      refine optionalCondition_valid (fun c hc js => condition_valid c ?_ o js) _
      have hinner := Mentions.all_under.mp hfilter
      rwa [hc, Condition.mentionsOf?] at hinner
    obtain ⟨fields, aggregates, filter, orderBy, limit, offset⟩ := q
    rw [level]
    cases aggregates with
    | cons first rest => exact Result.valid_notImplemented _
    | nil =>
      refine hentries.bind fun es _ => ?_
      refine hcondition.bind fun conds _ => ?_
      exact (orderExprs_valid o conds.2 horders).bind fun _ _ => Result.failsWith_ok _

end

end Selection

/-- A statement whose handles are in its table never fails for want of a relationship. -/
theorem Plan.compile_valid {s : Statement}
    (h : All (fun id => id.index < s.relationships.size) s.query.mentions) (schema : Schema)
    (bindings : VariableSet) : Result.Valid (Plan.compile schema s bindings) := by
  refine Result.FailsWith.bind ?_ fun _ _ => Result.failsWith_ok _
  refine (Selection.collection_valid schema s.collection).bind fun root _ => ?_
  have htable : Selection.InTable ⟨schema, s.relationships, bindings, root⟩ s.query.mentions := h
  exact (Selection.level_valid s.query htable _ [] false).bind fun _ _ => Result.failsWith_ok _

namespace Statement

/-- A handle is in the table, and it leads to the relationship that a request declares under the
name: with the same target, the same pairs of fields in the same order, and the same cardinality. -/
def LeadsTo (table : Relationships) (declared : Dict Request.Relationship) (name : String)
    (id : RelationshipId) : Prop :=
  id.index < table.size ∧
    ∃ r, (Dict.ofPairs declared).get? name = some r ∧ table.get id = .ok (r.named name)

theorem leadsTo_of_resolve {declared : Dict Request.Relationship} {name : String}
    {id : RelationshipId} (h : (relationshipsOf declared).resolve name = .ok id) :
    LeadsTo (relationshipsOf declared) declared name id := by
  obtain ⟨r, hdeclared, hget⟩ := get?_relationshipsOf h
  exact ⟨Relationships.lt_size_of_get? hget, r, hdeclared, Relationships.get_eq_ok_iff.mpr hget⟩

/-- **Main theorem.** The names in a request and the handles in its statement agree site by site.
Every handle is in the table of the statement, and looking it up gives the relationship that the
request declares under the name at that site. So no compilation of the statement, for whatever
schema and variables, ever looks up a handle that leads nowhere. -/
theorem ofRequest_mentions {r : Request} {s : Statement} (h : ofRequest r = .ok s) :
    Agree (LeadsTo s.relationships r.relationships) r.query.mentions s.query.mentions ∧
      ∀ schema bindings, Plan.compile schema s bindings ≠ .error .invalidHandle := by
  obtain ⟨query, hquery, rfl⟩ := ofRequest_eq_ok_iff.mp h
  have hagree : Agree (LeadsTo (relationshipsOf r.relationships) r.relationships)
      r.query.mentions query.mentions :=
    (queryOf_mentions r.query hquery).imp fun _ _ => leadsTo_of_resolve
  refine ⟨hagree, fun schema bindings herror => ?_⟩
  have hall : All (fun id => id.index < (relationshipsOf r.relationships).size) query.mentions :=
    hagree.all_right fun _ _ hid => hid.1
  exact Plan.compile_valid (s := ⟨r.collection, query, relationshipsOf r.relationships, _⟩) hall
    schema bindings _ herror rfl

/-- Users of the shop with their orders, by the number of orders: those whose organisation has a
name and who have an order for the organisation that it mentions. Relationships are declared in
another order than that of their use. -/
def usersByOrders : Request where
  collection := "users"
  query := {
    aggregates := none
    fields := some [("id", .column "id"), ("made", .relationship {
      aggregates := none
      fields := some [("recipient", .relationship
        ⟨none, some [("name", .column "name")], none, none, none, none⟩ "recipient" [])]
      limit := none
      offset := none
      orderBy := none
      predicate := none } "orders" [])]
    limit := none
    offset := none
    orderBy := some [⟨.desc, .starCountAggregate [⟨"orders", [], none⟩]⟩]
    predicate := some (.and [
      .not (.isNull (.column "name" [⟨"org", [], none⟩])),
      .existsIn (.related "orders" []) (some (.compare (.column "id" [⟨"recipient", [], none⟩])
        "equal" (.column (.column "org_id" []))))]) }
  arguments := []
  relationships := [
    ("recipient", ⟨[("org_id", "id")], .object, "orgs", []⟩),
    ("orders", ⟨[("id", "user_id")], .array, "orders", []⟩),
    ("org", ⟨[("org_id", "id")], .object, "orgs", []⟩)]
  variableSets := none

theorem usersByOrders_mentions :
    ∃ s, ofRequest usersByOrders = .ok s ∧
      usersByOrders.query.mentions = [
        ([.entry "made"], "orders"),
        ([.entry "made", .entry "recipient"], "recipient"),
        ([.filter, .operand 0, .negated, .column, .hop 0], "org"),
        ([.filter, .operand 1, .target], "orders"),
        ([.filter, .operand 1, .predicate, .column, .hop 0], "recipient"),
        ([.order 0, .hop 0], "orders")] ∧
      s.query.mentions.map Prod.snd = [⟨1⟩, ⟨0⟩, ⟨2⟩, ⟨1⟩, ⟨0⟩, ⟨1⟩] ∧
      Agree (LeadsTo s.relationships usersByOrders.relationships) usersByOrders.query.mentions
        s.query.mentions ∧
      ∀ schema bindings, Plan.compile schema s bindings ≠ .error .invalidHandle := by
  refine ⟨_, rfl, by decide, by decide, ?_⟩
  exact ofRequest_mentions rfl

/-- A handle beyond the table is looked up in vain. -/
example : Plan.compile shop
    ⟨"users", ⟨[("made", .relationship ⟨0⟩ .empty)], [], none, [], none, none⟩, .empty, none⟩
    .empty = .error .invalidHandle := by
  rfl

end Statement

end CollectionSql
