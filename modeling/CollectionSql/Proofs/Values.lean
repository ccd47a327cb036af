import CollectionSql.Plan
import CollectionSql.Proofs.Compilation
import CollectionSql.Proofs.Induction
import CollectionSql.Proofs.Rewording

/-!
# Values do not reach the text

The values in a statement, and those that a variable set gives to its variables, only become
arguments of the plan. Compilation takes the same steps whatever they are: it meets the same first
error, or it builds a tree with the same outline, and so the same text with as many placeholders.

The proof compares a run on a statement with a run on the statement without its values, under any
variable set with the same names. The two runs agree, step by step, in what `Rewording.outline`
keeps.

Results:
* `Result.map_bind_congr`: two chains agree in what an observer sees if their steps do.
* `condition_blank`, `level_blank`, `compile_blank`: a statement and its blank compile alike.
* `Plan.compile_eq_of_blank_eq`: hence statements with the same blank have plans with one text.
-/

namespace CollectionSql

/-- Two chains agree in what `g` sees if their first steps agree in what `f` sees, and the rests
agree on results that `f` does not tell apart. -/
theorem Result.map_bind_congr {α β γ δ : Type} {x y : Result α} {k l : α → Result β} {f : α → γ}
    {g : β → δ} (h : x.map f = y.map f)
    (hk : ∀ a b, f a = f b → (k a).map g = (l b).map g) : (x >>= k).map g = (y >>= l).map g := by
  cases x with
  | error e =>
    cases y with
    | error e' =>
      cases h
      rfl
    | ok b => cases h
  | ok a =>
    cases y with
    | error e => cases h
    | ok b => exact hk a b (Except.ok.inj h)

theorem Result.map_bind_congr_right {α β δ : Type} {x : Result α} {k l : α → Result β}
    {g : β → δ} (hk : ∀ a, (k a).map g = (l a).map g) : (x >>= k).map g = (x >>= l).map g :=
  Result.map_bind_congr (f := id) rfl fun a b hab => by
    cases hab
    exact hk a

theorem Result.map_pure_congr {α γ : Type} {a b : α} {f : α → γ} (h : f a = f b) :
    (pure a : Result α).map f = (pure b : Result α).map f := congrArg Except.ok h

/-! ## Statements without their values -/

namespace Statement

/-- The right side of a comparison, with its value forgotten. -/
def Operand.blank : Operand → Operand
  | .value _ => .value .null
  | .var name => .var name
  | .column c => .column c

mutual

/-- A condition, with its values forgotten. -/
def Condition.blank : Condition → Condition
  | .isNull column => .isNull column
  | .compare column op rhs => .compare column op rhs.blank
  | .and operands => .and (Condition.blankAll operands)
  | .or operands => .or (Condition.blankAll operands)
  | .not operand => .not operand.blank
  | .existsIn target predicate => .existsIn target (Condition.blank? predicate)

/-- A list of conditions, with their values forgotten. -/
def Condition.blankAll : List Condition → List Condition
  | [] => []
  | c :: cs => c.blank :: Condition.blankAll cs

/-- A condition that may be absent, with its values forgotten. -/
def Condition.blank? : Option Condition → Option Condition
  | none => none
  | some c => some c.blank

end

mutual

/-- A query, with its values forgotten. -/
def Query.blank : Query → Query
  | ⟨fields, aggregates, filter, orderBy, limit, offset⟩ =>
    ⟨Query.blankFields fields, aggregates, Condition.blank? filter, orderBy, limit, offset⟩

/-- The entries of a row, with their values forgotten. -/
def Query.blankFields : List (String × Field) → List (String × Field)
  | [] => []
  | (name, field) :: rest => (name, field.blank) :: Query.blankFields rest

/-- An entry of a row, with its values forgotten. -/
def Field.blank : Field → Field
  | .column name => .column name
  | .relationship id query => .relationship id query.blank

end

/-- A statement, with the values in its conditions forgotten. -/
def blank (s : Statement) : Statement := { s with query := s.query.blank }

end Statement

/-- Variable sets that give values to the same variables. -/
def VariableSet.SameNames (b b' : VariableSet) : Prop :=
  ∀ name, name ∈ b.values.keys ↔ name ∈ b'.values.keys

/-- Whether a variable has a value is all that an observer sees who does not look at it. -/
theorem VariableSet.get_map_eq {b b' : VariableSet} (h : b.SameNames b') (name : String) :
    (b.get name).map (fun _ => ()) = (b'.get name).map fun _ => () := by
  have hsome : (b.values.get? name).isSome = (b'.values.get? name).isSome := by
    rw [Bool.eq_iff_iff, Dict.get?_isSome_iff, Dict.get?_isSome_iff]
    exact h name
  unfold get
  cases hget : b.values.get? name with
  | none =>
    rw [hget] at hsome
    have hnone : b'.values.get? name = none := by
      rw [← Option.isNone_iff_eq_none, ← Option.isSome_eq_false_iff]
      exact hsome.symm
    rw [hnone]
  | some v =>
    rw [hget] at hsome
    obtain ⟨v', hv'⟩ := Option.isSome_iff_exists.mp hsome.symm
    rw [hv']
    rfl

namespace Selection

open Statement (ColumnRef Condition Operand Order Query)

/-- An environment in which the variables have other values. -/
def Env.rebind (env : Env) (b : VariableSet) : Env := { env with bindings := b }

section

variable {env : Env} {b : VariableSet}

/-! ## Steps that read no value -/

theorem followPath_rebind (path : List RelationshipId) (o : Occurrence) (js : Joins) :
    followPath (env.rebind b) path o js = followPath env path o js := by
  induction path generalizing o js with
  | nil => rfl
  | cons id ids ih =>
    simp only [followPath, ih]
    rfl

theorem columnExpr_rebind (o : Occurrence) (c : ColumnRef) (js : Joins) :
    columnExpr (env.rebind b) o c js = columnExpr env o c js := by
  unfold columnExpr
  simp only [followPath_rebind]
  rfl

theorem orderExprs_rebind (o : Occurrence) (orders : List Order) (js : Joins) :
    orderExprs (env.rebind b) o orders js = orderExprs env o orders js := by
  induction orders generalizing js with
  | nil => rfl
  | cons order orders ih => simp only [orderExprs, orderExpr, columnExpr_rebind, ih]

/-! ## Steps that read values -/

theorem operandExpr_blank (hb : env.bindings.SameNames b) (rhs : Operand) :
    (operandExpr env rhs).map Sql.Expr.outline =
      (operandExpr (env.rebind b) rhs.blank).map Sql.Expr.outline := by
  cases rhs with
  | value v => rfl
  | var name =>
    refine Result.map_bind_congr (VariableSet.get_map_eq hb name) fun v v' _ => ?_
    rfl
  | column c => rfl

/-- What an observer of a condition sees: its outline and its joins. -/
def seen (r : Sql.Expr × Joins) : Sql.Expr × Joins := (r.1.outline, r.2)

/-- What an observer of conditions sees. -/
def seenAll (r : List Sql.Expr × Joins) : List Sql.Expr × Joins := (r.1.map Sql.Expr.outline, r.2)

theorem outline_andAll (es : List Sql.Expr) :
    Sql.Select.rewordFilter .outline (Sql.Expr.andAll es) =
      Sql.Expr.andAll (es.map Sql.Expr.outline) := by
  rcases es with _ | ⟨e, _ | ⟨e', es⟩⟩
  · rfl
  · rfl
  · show Sql.Select.rewordFilter .outline (some (.and (e :: e' :: es))) = _
    rw [Sql.Select.rewordFilter, Sql.Expr.reword, Sql.Expr.rewordAll_eq]
    rfl

theorem outline_existsExpr (o : Occurrence) {es es' : List Sql.Expr} (js : Joins)
    (h : es.map Sql.Expr.outline = es'.map Sql.Expr.outline) :
    (existsExpr o es js).outline = (existsExpr o es' js).outline := by
  simp only [Sql.Expr.outline, existsExpr, Sql.Expr.reword, Sql.Select.reword, outline_andAll, h]

theorem conditions_blank {cs : List Condition} {o : Occurrence}
    (ih : ∀ c ∈ cs, ∀ js, (condition env c o js).map seen =
      (condition (env.rebind b) c.blank o js).map seen) (js : Joins) :
    (conditions env cs o js).map seenAll =
      (conditions (env.rebind b) (Condition.blankAll cs) o js).map seenAll := by
  induction cs generalizing js with
  | nil => rfl
  | cons c cs hcs =>
    obtain ⟨hc, hrest⟩ := List.forall_mem_cons.mp ih
    rw [Condition.blankAll, conditions, conditions]
    refine Result.map_bind_congr (hc js) ?_
    rintro ⟨e, js₁⟩ ⟨e', js₂⟩ h
    obtain ⟨he, rfl⟩ := Prod.mk.inj h
    refine Result.map_bind_congr (hcs hrest js₁) ?_
    rintro ⟨es, js₂⟩ ⟨es', js₃⟩ h
    obtain ⟨hes, rfl⟩ := Prod.mk.inj h
    exact Result.map_pure_congr (Prod.ext (congrArg₂ List.cons he hes) rfl)

theorem optionalCondition_blank {p : Option Condition} {o : Occurrence}
    (ih : ∀ c, p = some c → ∀ js, (condition env c o js).map seen =
      (condition (env.rebind b) c.blank o js).map seen) (js : Joins) :
    (optionalCondition env p o js).map seenAll =
      (optionalCondition (env.rebind b) (Condition.blank? p) o js).map seenAll := by
  cases p with
  | none => rfl
  | some c =>
    rw [Condition.blank?, optionalCondition, optionalCondition]
    refine Result.map_bind_congr (ih c rfl js) ?_
    rintro ⟨e, js₁⟩ ⟨e', js₂⟩ h
    obtain ⟨he, rfl⟩ := Prod.mk.inj h
    exact Result.map_pure_congr (Prod.ext (congrArg (fun e => [e]) he) rfl)

/-- A condition and its blank compile alike. -/
theorem condition_blank (hb : env.bindings.SameNames b) (c : Condition) (o : Occurrence)
    (js : Joins) :
    (condition env c o js).map seen = (condition (env.rebind b) c.blank o js).map seen := by
  induction c using Condition.induction generalizing o js with
  | isNull column => rw [Condition.blank, condition, condition, columnExpr_rebind]
  | compare column op rhs =>
    rw [Condition.blank, condition, condition]
    refine Result.map_bind_congr (operandExpr_blank hb rhs) fun rhs rhs' h => ?_
    simp only [columnExpr_rebind]
    refine Result.map_bind_congr_right fun lhs => ?_
    refine Result.map_bind_congr_right fun op => ?_
    exact Result.map_pure_congr (Prod.ext (congrArg (Sql.Expr.binary op lhs.1.outline) h) rfl)
  | and operands ih =>
    rw [Condition.blank, condition, condition]
    refine Result.map_bind_congr (conditions_blank (fun c hc js => ih c hc o js) js) ?_
    rintro ⟨es, js₁⟩ ⟨es', js₂⟩ h
    obtain ⟨hes, rfl⟩ := Prod.mk.inj h
    refine Result.map_pure_congr (Prod.ext ?_ rfl)
    show (Sql.Expr.and es).outline = (Sql.Expr.and es').outline
    rw [Sql.Expr.outline_and, Sql.Expr.outline_and, hes]
  | or operands ih =>
    rw [Condition.blank, condition, condition]
    refine Result.map_bind_congr (conditions_blank (fun c hc js => ih c hc o js) js) ?_
    rintro ⟨es, js₁⟩ ⟨es', js₂⟩ h
    obtain ⟨hes, rfl⟩ := Prod.mk.inj h
    refine Result.map_pure_congr (Prod.ext ?_ rfl)
    show (Sql.Expr.or es).outline = (Sql.Expr.or es').outline
    rw [Sql.Expr.outline_or, Sql.Expr.outline_or, hes]
  | not operand ih =>
    rw [Condition.blank, condition, condition]
    refine Result.map_bind_congr (ih o js) ?_
    rintro ⟨e, js₁⟩ ⟨e', js₂⟩ h
    obtain ⟨he, rfl⟩ := Prod.mk.inj h
    exact Result.map_pure_congr (Prod.ext (congrArg Sql.Expr.not he) rfl)
  | existsIn target predicate ih =>
    rw [Condition.blank, condition, condition]
    refine Result.map_bind_congr_right fun r => ?_
    refine Result.map_bind_congr_right fun c => ?_
    refine Result.map_bind_congr_right fun tie => ?_
    refine Result.map_bind_congr (optionalCondition_blank (fun d hd js => ih d hd _ js) .empty) ?_
    rintro ⟨es, js₁⟩ ⟨es', js₂⟩ h
    obtain ⟨hes, rfl⟩ := Prod.mk.inj h
    refine Result.map_pure_congr (Prod.ext (outline_existsExpr _ js₁ ?_) rfl)
    rw [List.map_append, List.map_append]
    exact congrArg (tie.map Sql.Expr.outline ++ ·) hes

/-! ## Levels -/

/-- What an observer of the entries of a row sees. -/
def seenEntries (es : List (String × Sql.Expr)) : List (String × Sql.Expr) :=
  es.map Sql.entryOutline

theorem entries_blank {fields : List (String × Statement.Field)} {o : Occurrence}
    (ih : ∀ f ∈ fields, (entry env f.2 o f.1).map Sql.Expr.outline =
      (entry (env.rebind b) f.2.blank o f.1).map Sql.Expr.outline) :
    (entries env fields o).map seenEntries =
      (entries (env.rebind b) (Query.blankFields fields) o).map seenEntries := by
  induction fields with
  | nil => rfl
  | cons f rest hrest =>
    obtain ⟨name, field⟩ := f
    obtain ⟨hfield, ih⟩ := List.forall_mem_cons.mp ih
    rw [Query.blankFields, entries, entries]
    refine Result.map_bind_congr hfield fun e e' he => ?_
    refine Result.map_bind_congr (hrest ih) fun es es' hes => ?_
    exact Result.map_pure_congr (congrArg₂ (fun e es => (name, e) :: es) he hes)

theorem outline_foldSelect (rows : Sql.Select) :
    (foldSelect rows).outline = foldSelect rows.outline := by
  simp only [Sql.Select.outline, foldSelect, Sql.Select.reword, Sql.Select.rewordProjection,
    Sql.Expr.reword, Sql.Expr.rewordEntries, Sql.Select.rewordSource, Sql.Select.rewordFilter,
    Sql.Expr.rewordAll, Sql.Select.rewordOrders, List.map_nil]
  rfl

theorem outline_rowSelect (o : Occurrence) {es es' : List (String × Sql.Expr)}
    {conds conds' : List Sql.Expr} (orders : List (Sql.Expr × Direction)) (js : Joins)
    (limit : Option Sql.Limit) (hes : seenEntries es = seenEntries es')
    (hconds : conds.map Sql.Expr.outline = conds'.map Sql.Expr.outline) :
    (rowSelect o es conds orders js limit).outline =
      (rowSelect o es' conds' orders js limit).outline := by
  have hentries : Sql.Expr.rewordEntries .outline es = Sql.Expr.rewordEntries .outline es' := by
    rw [Sql.Expr.rewordEntries_eq, Sql.Expr.rewordEntries_eq]
    exact hes
  simp only [Sql.Select.outline, rowSelect, Sql.Select.reword, Sql.Select.rewordProjection,
    Sql.Expr.reword, hentries, outline_andAll, hconds]

/-- A level and its blank compile alike. -/
theorem level_blank (hb : env.bindings.SameNames b) (q : Query) (o : Occurrence)
    (tie : List Sql.Expr) (single : Bool) :
    (level env q o tie single).map Sql.Select.outline =
      (level (env.rebind b) q.blank o tie single).map Sql.Select.outline := by
  induction q using Query.induction generalizing o tie single with
  | step q ih =>
    have hentry : ∀ f ∈ q.fields, (entry env f.2 o f.1).map Sql.Expr.outline =
        (entry (env.rebind b) f.2.blank o f.1).map Sql.Expr.outline := by
      rintro ⟨name, field⟩ hf
      cases field with
      | column column => rfl
      | relationship id nested =>
        rw [Statement.Field.blank, entry, entry]
        refine Result.map_bind_congr_right fun r => ?_
        refine Result.map_bind_congr_right fun c => ?_
        refine Result.map_bind_congr_right fun tie => ?_
        refine Result.map_bind_congr (ih name id nested hf _ tie _) fun rows rows' h => ?_
        exact Result.map_pure_congr (congrArg (fun s => Sql.Expr.json (.subquery s)) h)
    obtain ⟨fields, aggregates, filter, orderBy, limit, offset⟩ := q
    rw [Query.blank, level, level]
    cases aggregates with
    | cons first rest => rfl
    | nil =>
      simp only [List.isEmpty_nil, if_true]
      refine Result.map_bind_congr (entries_blank hentry) fun es es' hes => ?_
      refine Result.map_bind_congr (optionalCondition_blank
        (fun c _ js => condition_blank hb c o js) .empty) ?_
      rintro ⟨conds, js₁⟩ ⟨conds', js₂⟩ h
      obtain ⟨hconds, rfl⟩ := Prod.mk.inj h
      simp only [orderExprs_rebind]
      refine Result.map_bind_congr_right fun orders => Result.map_pure_congr ?_
      rw [outline_foldSelect, outline_foldSelect]
      refine congrArg foldSelect (outline_rowSelect o orders.1 orders.2 _ hes ?_)
      rw [List.map_append, List.map_append]
      exact congrArg (tie.map Sql.Expr.outline ++ ·) hconds

end

/-- A statement and its blank compile alike, under variable sets with the same names. -/
theorem compile_blank {b b' : VariableSet} (hb : b.SameNames b') (schema : Schema)
    (s : Statement) :
    (compile schema s b).map Sql.Select.outline =
      (compile schema s.blank b').map Sql.Select.outline := by
  unfold compile
  refine Result.map_bind_congr_right fun root => ?_
  have hnames : (Env.mk schema s.relationships b root).bindings.SameNames b' := hb
  have hlevel := level_blank hnames s.query ⟨root, root.name⟩ [] false
  refine Result.map_bind_congr hlevel fun rows rows' h => Result.map_pure_congr ?_
  rw [Sql.Select.outline_scalar, Sql.Select.outline_scalar, h]

end Selection

/-- **Main theorem.** Let two statements differ only in the values inside their conditions, and two
variable sets only in the values that they give to variables. Then both compile or both fail with
the same error, and if they compile, their plans have the same text and as many arguments. -/
theorem Plan.compile_eq_of_blank_eq {s s' : Statement} (hs : s.blank = s'.blank)
    {b b' : VariableSet} (hb : b.SameNames b') (schema : Schema) :
    (Plan.compile schema s b).map (fun plan => (plan.sql, plan.args.length)) =
      (Plan.compile schema s' b').map fun plan => (plan.sql, plan.args.length) := by
  have hselect : (Selection.compile schema s b).map Sql.Select.outline =
      (Selection.compile schema s' b').map Sql.Select.outline := by
    rw [Selection.compile_blank hb, hs]
    exact (Selection.compile_blank (fun _ => Iff.rfl) schema s').symm
  refine Result.map_bind_congr hselect fun t t' h => Result.map_pure_congr (Prod.ext ?_ ?_)
  · show t.text = t'.text
    rw [← t.text_outline, h, t'.text_outline]
  · show t.arguments.length = t'.arguments.length
    rw [← t.length_arguments_reword (w := .outline), ← Sql.Select.outline, h, Sql.Select.outline,
      t'.length_arguments_reword]

/-- Users of an organisation given by a variable, except one. -/
def usersOfOrgExcept (id : Value) : Statement where
  collection := "users"
  query := {
    fields := [("id", .column "id")]
    aggregates := []
    filter := some (.and [
      .compare ⟨"name", [⟨0⟩], .current⟩ (.known .eq) (.var "org"),
      .compare (.current "id") (.known .ne) (.value id)])
    orderBy := []
    limit := none
    offset := none }
  relationships := ⟨[("org", ⟨"org", "orgs", [("org_id", "id")], .object⟩)]⟩
  variableSets := none

/-- Values that look like SQL leave the text as it is. -/
theorem usersOfOrgExcept_same_text : ∃ plan plan' : Plan,
    Plan.compile shop (usersOfOrgExcept (.int 7)) (.ofPairs [("org", .string "Acme")]) =
        .ok plan ∧
      Plan.compile shop (usersOfOrgExcept (.string "7 OR 1 = 1"))
        (.ofPairs [("org", .string "'; DROP TABLE orgs; --")]) = .ok plan' ∧
      plan.sql = plan'.sql ∧ plan.args.length = plan'.args.length := by
  have hstatements : (usersOfOrgExcept (.int 7)).blank =
      (usersOfOrgExcept (.string "7 OR 1 = 1")).blank := rfl
  have hnames : VariableSet.SameNames (.ofPairs [("org", .string "Acme")])
      (.ofPairs [("org", .string "'; DROP TABLE orgs; --")]) := fun _ => Iff.rfl
  have hsame := Plan.compile_eq_of_blank_eq hstatements hnames shop
  refine ⟨_, _, rfl, rfl, ?_⟩
  exact Prod.mk.inj (Except.ok.inj hsame)

end CollectionSql
