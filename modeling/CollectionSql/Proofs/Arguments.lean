import CollectionSql.Proofs.Compilation
import CollectionSql.Proofs.Induction
import CollectionSql.Proofs.Placeholders

/-!
# The arguments of a plan

A plan binds the operands of its statement and nothing else. Which placeholder an operand belongs to
is decided by where it ends up in the text, and a statement is not printed in the order in which it
is compiled: the entries of a row come first, with everything nested in them, and the filter of the
level only after that. So the arguments are, level by level, those of the nested levels and then the
operands of the filter from left to right. Ties between levels, joins, grouping keys, orderings and
limits bind nothing.

Results:
* `Query.operands`: the values of the operands of a query, in the order of the text.
* `boundValues_rowSelect`, `boundValues_existsExpr`: what the SELECTs of a compilation bind.
* `condition_boundValues`, `level_boundValues`: a compiled part binds its operands.
* `Plan.args_eq_operands`: the arguments of a plan are the operands of its statement.
-/

namespace CollectionSql.Statement

/-! ## Operands -/

/-- What the right side of a comparison binds: a value, or the value that a variable has. -/
def Operand.bound (bindings : VariableSet) : Operand → List Value
  | .value v => [v]
  | .var name => (bindings.values.get? name).toList
  | .column _ => []

section

variable (bindings : VariableSet)

mutual

/-- The values of the operands of a condition, from left to right. The predicate of an existence
check is read where the check stands. -/
def Condition.operands : Condition → List Value
  | .isNull _ => []
  | .compare _ _ rhs => rhs.bound bindings
  | .and operands => Condition.operandsOfAll operands
  | .or operands => Condition.operandsOfAll operands
  | .not operand => operand.operands
  | .existsIn _ predicate => Condition.operandsOf? predicate

/-- The values of the operands of a list of conditions. -/
def Condition.operandsOfAll : List Condition → List Value
  | [] => []
  | c :: cs => c.operands ++ Condition.operandsOfAll cs

/-- The values of the operands of a condition that may be absent. -/
def Condition.operandsOf? : Option Condition → List Value
  | none => []
  | some c => c.operands

end

mutual

/-- The values of the operands of a query: those of the queries nested in its fields, in the order
of the fields, and then those of its filter. -/
def Query.operands : Query → List Value
  | ⟨fields, _, filter, _, _, _⟩ =>
    Query.operandsOfFields fields ++ Condition.operandsOf? bindings filter

/-- The values of the operands of the entries of a row. -/
def Query.operandsOfFields : List (String × Field) → List Value
  | [] => []
  | (_, field) :: rest => field.operands ++ Query.operandsOfFields rest

/-- The values of the operands of one entry of a row. -/
def Field.operands : Field → List Value
  | .column _ => []
  | .relationship _ query => query.operands

end

theorem Query.operands_eq (q : Query) :
    q.operands bindings =
      Query.operandsOfFields bindings q.fields ++ Condition.operandsOf? bindings q.filter := by
  cases q
  rfl

end

end CollectionSql.Statement

namespace CollectionSql.Sql

/-! ## What printed parts bind -/

@[simp] theorem boundValues_nil : boundValues [] = [] := rfl

@[simp] theorem boundValues_append (ps qs : List Piece) :
    boundValues (ps ++ qs) = boundValues ps ++ boundValues qs := List.filterMap_append

@[simp] theorem boundValues_word (w : String) (ps : List Piece) :
    boundValues (.word w :: ps) = boundValues ps := rfl

@[simp] theorem boundValues_identifier (name : String) (ps : List Piece) :
    boundValues (.identifier name :: ps) = boundValues ps := rfl

@[simp] theorem boundValues_literal (name : String) (ps : List Piece) :
    boundValues (.literal name :: ps) = boundValues ps := rfl

@[simp] theorem boundValues_argument (v : Value) (ps : List Piece) :
    boundValues (.argument v :: ps) = v :: boundValues ps := rfl

@[simp] theorem boundValues_numberPiece (n : Int) (ps : List Piece) :
    boundValues (numberPiece n :: ps) = boundValues ps := rfl

@[simp] theorem boundValues_directionPiece (d : Direction) (ps : List Piece) :
    boundValues (directionPiece d :: ps) = boundValues ps := by
  cases d <;> rfl

@[simp] theorem boundValues_labelPieces (label : Option String) :
    boundValues (labelPieces label) = [] := by
  cases label <;> rfl

theorem boundValues_flatMap {α : Type} (f : α → List Piece) (xs : List α) :
    boundValues (xs.flatMap f) = xs.flatMap fun x => boundValues (f x) := by
  induction xs with
  | nil => rfl
  | cons x xs ih => rw [List.flatMap_cons, boundValues_append, ih, List.flatMap_cons]

/-- The separators of a list bind nothing. -/
theorem boundValues_separated {α : Type} (separator : String) (item : α → List Piece)
    (xs : List α) :
    boundValues (separated separator item xs) = xs.flatMap fun x => boundValues (item x) := by
  cases xs with
  | nil => rfl
  | cons x xs => simp [separated, boundValues_flatMap]

theorem boundValues_listClause {α : Type} (word : String) (item : α → List Piece) (xs : List α) :
    boundValues (listClause word item xs) = xs.flatMap fun x => boundValues (item x) := by
  cases xs with
  | nil => rfl
  | cons x xs => rw [listClause, boundValues_word, boundValues_separated]

theorem boundValues_joins (js : List Join) : boundValues (js.flatMap Join.pieces) = [] := by
  rw [boundValues_flatMap, List.flatMap_eq_nil_iff]
  intro j _
  simp [Join.pieces, Column.pieces]

theorem boundValues_limit (limit : Option Limit) : boundValues (Limit.piecesOf? limit) = [] := by
  rcases limit with _ | ⟨count, _ | offset⟩ <;> simp [Limit.piecesOf?, Limit.pieces]

namespace Expr

/-- The values that an expression binds, in the order of its text. -/
def boundValues (e : Expr) : List Value := Sql.boundValues e.pieces

@[simp] theorem boundValues_col (label column : String) : (col label column).boundValues = [] := by
  simp [boundValues, col, pieces, Column.pieces]

@[simp] theorem boundValues_value (v : Value) : (value v).boundValues = [v] := by
  simp [boundValues, pieces]

@[simp] theorem boundValues_isNull (e : Expr) : (isNull e).boundValues = e.boundValues := by
  simp [boundValues, pieces]

@[simp] theorem boundValues_not (e : Expr) : (not e).boundValues = e.boundValues := by
  simp [boundValues, pieces]

@[simp] theorem boundValues_binary (op : Operator) (lhs rhs : Expr) :
    (binary op lhs rhs).boundValues = lhs.boundValues ++ rhs.boundValues := by
  simp [boundValues, pieces]

theorem boundValues_combined (word : String) (es : List Expr) :
    Sql.boundValues (combined word es) = es.flatMap boundValues := by
  cases es with
  | nil => simp [combined_nil]
  | cons e es =>
    simp only [combined_cons, boundValues_append, boundValues_separated, boundValues_word,
      boundValues_nil, List.nil_append, List.append_nil]
    rfl

@[simp] theorem boundValues_and (es : List Expr) :
    (and es).boundValues = es.flatMap boundValues := by
  rw [boundValues, pieces, boundValues_combined]

@[simp] theorem boundValues_or (es : List Expr) : (or es).boundValues = es.flatMap boundValues := by
  rw [boundValues, pieces, boundValues_combined]

/-- A conjunction binds what its conditions bind, however it is written. -/
theorem boundValues_andAll (es : List Expr) :
    Sql.boundValues (Select.filterPieces (andAll es)) = es.flatMap boundValues := by
  match es with
  | [] => rw [andAll, Select.filterPieces, boundValues_nil, List.flatMap_nil]
  | [e] =>
    rw [andAll, Select.filterPieces, boundValues_word, List.flatMap_singleton]
    rfl
  | e :: e' :: es =>
    have hand : andAll (e :: e' :: es) = some (and (e :: e' :: es)) := rfl
    rw [hand, Select.filterPieces, boundValues_word, ← boundValues_and]
    rfl

end Expr

theorem boundValues_pieces (s : Select) : boundValues s.pieces = s.arguments := rfl

/-- The values that a statement binds, clause by clause. -/
theorem Select.arguments_eq (s : Select) :
    s.arguments = s.projection.flatMap (fun item => item.1.boundValues) ++
      boundValues (Select.sourcePieces s.source) ++ boundValues (Select.filterPieces s.filter) ++
      s.groupBy.flatMap Expr.boundValues ++ s.orderBy.flatMap fun item => item.1.boundValues := by
  rw [← boundValues_pieces, Select.pieces_eq]
  simp only [boundValues_append, boundValues_word, boundValues_nil, boundValues_separated,
    boundValues_listClause, boundValues_joins, boundValues_limit, itemPieces, criterionPieces,
    boundValues_labelPieces, boundValues_directionPiece, List.append_nil, List.nil_append]
  rfl

end CollectionSql.Sql

namespace CollectionSql.Selection

open Statement (ColumnRef Condition Operand Order Query)

/-! ## What the SELECTs of a compilation bind -/

/-- The keys that tell rows apart bind nothing. -/
theorem boundValues_rowKey (o : Occurrence) : o.rowKey.flatMap Sql.Expr.boundValues = [] := by
  rw [List.flatMap_eq_nil_iff]
  intro e he
  unfold Occurrence.rowKey at he
  split at he
  · rw [List.mem_singleton.mp he, Sql.Expr.boundValues_col]
  · obtain ⟨column, -, rfl⟩ := List.mem_map.mp he
    exact Sql.Expr.boundValues_col _ _

/-- The rows of a level bind what their entries bind, then what their conditions bind, then what
their ordering binds. -/
theorem boundValues_rowSelect (o : Occurrence) (entries : List (String × Sql.Expr))
    (conds : List Sql.Expr) (orders : List (Sql.Expr × Direction)) (js : Joins)
    (limit : Option Sql.Limit) :
    (rowSelect o entries conds orders js limit).arguments =
      entries.flatMap (fun entry => entry.2.boundValues) ++
        conds.flatMap Sql.Expr.boundValues ++ orders.flatMap fun item => item.1.boundValues := by
  have hobject : (Sql.Expr.jsonObject entries).boundValues =
      entries.flatMap fun entry => entry.2.boundValues := by
    rw [Sql.Expr.boundValues, Sql.Expr.pieces, Sql.Expr.entries_eq]
    simp only [Sql.boundValues_append, Sql.boundValues_word, Sql.boundValues_nil,
      Sql.boundValues_separated, Sql.entryPieces, Sql.boundValues_literal, List.nil_append,
      List.append_nil]
    rfl
  have hgroup : (if js.fansOut then o.rowKey else []).flatMap Sql.Expr.boundValues = [] := by
    split
    · exact boundValues_rowKey o
    · exact List.flatMap_nil
  rw [Sql.Select.arguments_eq, rowSelect]
  simp only [List.flatMap_singleton, hobject, hgroup, Sql.Expr.boundValues_andAll,
    Occurrence.source, Sql.Select.sourcePieces, Sql.boundValues_word, Sql.boundValues_identifier,
    Sql.boundValues_nil, List.append_nil]

/-- Folding the rows of a level into one object binds nothing more. -/
theorem boundValues_foldSelect (rows : Sql.Select) :
    (foldSelect rows).arguments = rows.arguments := by
  rw [Sql.Select.arguments_eq, foldSelect]
  simp [Sql.Select.sourcePieces, Sql.Select.filterPieces, Sql.Expr.boundValues, Sql.Expr.pieces,
    Sql.Expr.entries, Sql.Expr.followingEntries, Sql.boundValues_pieces]

/-- A nested level binds what its SELECT binds. -/
theorem boundValues_nested (rows : Sql.Select) :
    (Sql.Expr.json (.subquery rows)).boundValues = rows.arguments := by
  simp [Sql.Expr.boundValues, Sql.Expr.pieces, Sql.boundValues_pieces]

/-- An existence check binds what its conditions bind. -/
theorem boundValues_existsExpr (o : Occurrence) (conds : List Sql.Expr) (js : Joins) :
    (existsExpr o conds js).boundValues = conds.flatMap Sql.Expr.boundValues := by
  rw [existsExpr, Sql.Expr.boundValues, Sql.Expr.pieces]
  simp only [Sql.boundValues_append, Sql.boundValues_word, Sql.boundValues_nil, List.nil_append,
    List.append_nil]
  rw [Sql.boundValues_pieces, Sql.Select.arguments_eq]
  simp [Sql.Expr.boundValues_andAll, Occurrence.source, Sql.Select.sourcePieces,
    Sql.Expr.boundValues, Sql.Expr.pieces]

/-! ## What compiled parts bind -/

/-- A tie between two levels binds nothing. -/
theorem boundValues_ties (parent child : String) (mapping : List (String × String)) :
    (mapping.map (tieExpr parent child)).flatMap Sql.Expr.boundValues = [] := by
  rw [List.flatMap_eq_nil_iff]
  intro e he
  obtain ⟨pair, -, rfl⟩ := List.mem_map.mp he
  simp [tieExpr]

theorem columnExpr_boundValues {env : Env} {o : Occurrence} {c : ColumnRef} {js js' : Joins}
    {e : Sql.Expr} (h : columnExpr env o c js = .ok (e, js')) : e.boundValues = [] := by
  obtain ⟨target, hops, -, -, rfl, -⟩ := columnExpr_eq_ok_iff.mp h
  exact Sql.Expr.boundValues_col _ _

theorem bound_of_operandValue? {bindings : VariableSet} {rhs : Operand} {v : Value}
    (h : operandValue? bindings rhs = some v) : rhs.bound bindings = [v] := by
  cases rhs with
  | value _ =>
    cases h
    rfl
  | var name =>
    show (bindings.values.get? name).toList = [v]
    rw [show bindings.values.get? name = some v from h]
    rfl
  | column _ => cases h

section

variable {env : Env} {o : Occurrence}

theorem conditions_boundValues {cs : List Condition}
    (ih : ∀ c ∈ cs, ∀ js e js', condition env c o js = .ok (e, js') →
      e.boundValues = c.operands env.bindings)
    {js js' : Joins} {es : List Sql.Expr} (h : conditions env cs o js = .ok (es, js')) :
    es.flatMap Sql.Expr.boundValues = Condition.operandsOfAll env.bindings cs := by
  induction cs generalizing js es with
  | nil =>
    rw [(conditions_nil_iff.mp h).1]
    rfl
  | cons c cs ihcs =>
    obtain ⟨ihc, ihrest⟩ := List.forall_mem_cons.mp ih
    obtain ⟨e, rest, between, he, hrest, rfl⟩ := conditions_cons_iff.mp h
    rw [List.flatMap_cons, ihc _ _ _ he, ihcs ihrest hrest, Condition.operandsOfAll]

theorem optionalCondition_boundValues {p : Option Condition}
    (ih : ∀ c, p = some c → ∀ js e js', condition env c o js = .ok (e, js') →
      e.boundValues = c.operands env.bindings)
    {js js' : Joins} {es : List Sql.Expr} (h : optionalCondition env p o js = .ok (es, js')) :
    es.flatMap Sql.Expr.boundValues = Condition.operandsOf? env.bindings p := by
  cases p with
  | none =>
    rw [(optionalCondition_none_iff.mp h).1]
    rfl
  | some c =>
    obtain ⟨e, he, rfl⟩ := optionalCondition_some_iff.mp h
    rw [List.flatMap_singleton, ih c rfl _ _ _ he, Condition.operandsOf?]

end

/-- A compiled condition binds its operands from left to right. -/
theorem condition_boundValues {env : Env} (c : Condition) {o : Occurrence} {js js' : Joins}
    {e : Sql.Expr} (h : condition env c o js = .ok (e, js')) :
    e.boundValues = c.operands env.bindings := by
  induction c using Condition.induction generalizing o js e js' with
  | isNull column =>
    obtain ⟨col, hcol, rfl⟩ := condition_isNull_iff.mp h
    rw [Sql.Expr.boundValues_isNull, columnExpr_boundValues hcol, Condition.operands]
  | compare column op rhs =>
    obtain ⟨known, v, col, -, hv, hcol, rfl⟩ := condition_compare_iff.mp h
    rw [Sql.Expr.boundValues_binary, columnExpr_boundValues hcol, Sql.Expr.boundValues_value,
      Condition.operands, bound_of_operandValue? hv, List.nil_append]
  | and operands ih =>
    obtain ⟨es, hes, rfl⟩ := condition_and_iff.mp h
    rw [Sql.Expr.boundValues_and, Condition.operands]
    exact conditions_boundValues (fun c hc _ _ _ => ih c hc) hes
  | or operands ih =>
    obtain ⟨es, hes, rfl⟩ := condition_or_iff.mp h
    rw [Sql.Expr.boundValues_or, Condition.operands]
    exact conditions_boundValues (fun c hc _ _ _ => ih c hc) hes
  | not operand ih =>
    obtain ⟨e', he', rfl⟩ := condition_not_iff.mp h
    rw [Sql.Expr.boundValues_not, ih he', Condition.operands]
  | existsIn target predicate ih =>
    obtain ⟨id, r, c, es, inner, -, -, -, -, hes, rfl, -⟩ := condition_existsIn_iff.mp h
    rw [boundValues_existsExpr, List.flatMap_append, boundValues_ties, List.nil_append,
      Condition.operands]
    exact optionalCondition_boundValues (fun d hd _ _ _ => ih d hd) hes

theorem orderExprs_boundValues {env : Env} {o : Occurrence} {orders : List Order} {js js' : Joins}
    {es : List (Sql.Expr × Direction)} (h : orderExprs env o orders js = .ok (es, js')) :
    es.flatMap (fun item => item.1.boundValues) = [] := by
  induction orders generalizing js es with
  | nil =>
    rw [(orderExprs_nil_iff.mp h).1]
    rfl
  | cons order orders ih =>
    obtain ⟨entry, rest, between, hfirst, hrest, rfl⟩ := orderExprs_cons_iff.mp h
    obtain ⟨c, e, -, he, rfl⟩ := orderExpr_eq_ok_iff.mp hfirst
    rw [List.flatMap_cons, columnExpr_boundValues he, ih hrest, List.nil_append]

theorem entries_boundValues {env : Env} {o : Occurrence} {fields : List (String × Statement.Field)}
    (ih : ∀ f ∈ fields, ∀ e, entry env f.2 o f.1 = .ok e →
      e.boundValues = f.2.operands env.bindings)
    {es : List (String × Sql.Expr)} (h : entries env fields o = .ok es) :
    es.flatMap (fun entry => entry.2.boundValues) =
      Query.operandsOfFields env.bindings fields := by
  have hentries := entries_eq_ok_iff.mp h
  clear h
  induction hentries with
  | nil => rfl
  | cons hfirst _ ihrest =>
    obtain ⟨ihfirst, ihothers⟩ := List.forall_mem_cons.mp ih
    rw [List.flatMap_cons, ihfirst _ hfirst.2, ihrest ihothers, Query.operandsOfFields]

/-- A compiled level binds the operands of its query, if what ties it to its parent binds
nothing. -/
theorem level_boundValues {env : Env} (q : Query) {o : Occurrence} {tie : List Sql.Expr}
    {single : Bool} {s : Sql.Select} (htie : tie.flatMap Sql.Expr.boundValues = [])
    (h : level env q o tie single = .ok s) : s.arguments = q.operands env.bindings := by
  induction q using Query.induction generalizing o tie single s with
  | step q ih =>
    obtain ⟨-, es, conds, js, orders, js', hes, hconds, horders, rfl⟩ := level_eq_ok_iff.mp h
    have hentry : ∀ f ∈ q.fields, ∀ e, entry env f.2 o f.1 = .ok e →
        e.boundValues = f.2.operands env.bindings := by
      rintro ⟨name, field⟩ hf e he
      cases field with
      | column column =>
        obtain ⟨-, rfl⟩ := entry_column_iff.mp he
        rw [Sql.Expr.boundValues_col, Statement.Field.operands]
      | relationship id inner =>
        obtain ⟨r, c, rows, -, -, -, hrows, rfl⟩ := entry_relationship_iff.mp he
        rw [boundValues_nested, Statement.Field.operands]
        exact ih name id inner hf (boundValues_ties _ _ _) hrows
    have hfilter : conds.flatMap Sql.Expr.boundValues =
        Condition.operandsOf? env.bindings q.filter :=
      optionalCondition_boundValues (fun c _ _ _ _ => condition_boundValues c) hconds
    rw [boundValues_foldSelect, boundValues_rowSelect, entries_boundValues hentry hes,
      List.flatMap_append, htie, hfilter, orderExprs_boundValues horders, List.nil_append,
      List.append_nil, Query.operands_eq]

end CollectionSql.Selection

namespace CollectionSql

/-- **Main theorem.** The arguments of a plan are the operands of its statement: those of nested
queries before those of the filter around them, and those of a filter from left to right. -/
theorem Plan.args_eq_operands {schema : Schema} {s : Statement} {bindings : VariableSet} {p : Plan}
    (h : Plan.compile schema s bindings = .ok p) : p.args = s.query.operands bindings := by
  obtain ⟨t, ht, hp⟩ := Result.bind_eq_ok.mp h
  cases Result.pure_eq_ok.mp hp
  obtain ⟨root, rows, -, hrows, rfl⟩ := Selection.compile_eq_ok_iff.mp ht
  rw [← Selection.level_boundValues s.query List.flatMap_nil hrows, Plan.args,
    Sql.Select.arguments_eq, Sql.Select.scalar]
  simp [Sql.Expr.boundValues, Sql.Expr.pieces, Sql.Select.sourcePieces, Sql.Select.filterPieces,
    Sql.boundValues_pieces]

/-- Users of one organisation that have some order for another, each with the late orders for a
third. The nested orders come before the filter of the users, and in that filter the check for
orders comes before the last operand. -/
def usersWithLateOrders : Statement where
  collection := "users"
  query := {
    fields := [("id", .column "id"), ("late", .relationship ⟨0⟩ {
      fields := [("id", .column "id")]
      aggregates := []
      filter := some (.and [
        .compare (.current "id") (.known .gt) (.value (.int 100)),
        .compare ⟨"name", [⟨1⟩], .current⟩ (.known .eq) (.var "third")])
      orderBy := [⟨.column ⟨"name", [⟨1⟩], .current⟩, .asc⟩]
      limit := some 5
      offset := some 1 })]
    aggregates := []
    filter := some (.or [
      .not (.existsIn (.related ⟨0⟩)
        (some (.compare (.current "org_id") (.known .eq) (.var "other")))),
      .isNull (.current "id"),
      .compare (.current "org_id") (.known .ne) (.value (.int 7))])
    orderBy := []
    limit := none
    offset := none }
  relationships := ⟨[
    ("orders", ⟨"orders", "orders", [("id", "user_id")], .array⟩),
    ("org", ⟨"org", "orgs", [("org_id", "id")], .object⟩)]⟩
  variableSets := none

theorem usersWithLateOrders_args :
    ∃ p, Plan.compile shop usersWithLateOrders
        ⟨[("other", .int 8), ("third", .string "Acme"), ("spare", .null)]⟩ = .ok p ∧
      p.args = [.int 100, .string "Acme", .int 8, .int 7] := by
  obtain ⟨p, hp⟩ : ∃ p, Plan.compile shop usersWithLateOrders
      ⟨[("other", .int 8), ("third", .string "Acme"), ("spare", .null)]⟩ = .ok p := ⟨_, rfl⟩
  exact ⟨p, hp, (Plan.args_eq_operands hp).trans (by decide)⟩

end CollectionSql
