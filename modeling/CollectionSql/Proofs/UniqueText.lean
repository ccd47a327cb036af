import CollectionSql.Proofs.Decoding
import CollectionSql.Proofs.Values

/-!
# The text of a plan has one reading

Comparisons are printed without parentheses, so not every tree can be read off its text. The trees
that compilation builds can: their comparisons are between a column and a column or a value, and a
condition inside a condition stands between parentheses. The first characters of a condition tell
of which kind it is, and every clause of a SELECT begins with a word of its own.

Results:
* `IsCondition`, `IsLevel`: the trees that compilation builds.
* `IsCondition.append_inj`, `IsLevel.append_inj`: conditions and levels are told apart.
* `isLevel_of_level`: compilation builds such trees.
* `Plan.sql_eq_iff_outline_eq`: two plans have the same text iff they have the same outline.
-/

namespace CollectionSql.Sql

/-! ## Comparisons -/

section Tests

variable {t t' : List Char}

/-- The right side of a comparison: a column or a bound value. -/
inductive IsOperand : Expr → Prop
  | column (c : Column) : IsOperand (.column c)
  | value (v : Value) : IsOperand (.value v)

/-- A condition on a column that has no conditions inside. -/
inductive IsTest : Expr → Prop
  | isNull (c : Column) : IsTest (.isNull (.column c))
  | compare (op : Operator) (c : Column) {rhs : Expr} (operand : IsOperand rhs) :
      IsTest (.binary op (.column c) rhs)

theorem operator_append_inj {op op' : Operator}
    (h : op.sql.toList ++ (" ".toList ++ t) = op'.sql.toList ++ (" ".toList ++ t')) :
    op = op' ∧ t = t' := by
  have hblank : ∀ op : Operator, ∀ c ∈ op.sql.toList, (c != ' ') = true := by
    intro op
    refine List.all_eq_true.mp ?_
    cases op <;> decide
  obtain ⟨hsql, h⟩ := run_append_inj (hblank op) (hblank op') (by simp) (by simp) h
  refine ⟨?_, List.append_cancel_left h⟩
  have hsql := String.toList_inj.mp hsql
  cases op <;> cases op' <;> first | rfl | exact absurd hsql (by decide)

theorem IsOperand.append_inj {e e' : Expr} (he : IsOperand e) (he' : IsOperand e') (ht : Apart t)
    (ht' : Apart t') (h : render e.pieces ++ t = render e'.pieces ++ t') :
    e.outline = e'.outline ∧ t = t' := by
  cases he with
  | column c =>
    cases he' with
    | column c' =>
      obtain ⟨heq, htt⟩ := IsColumn.append_inj ⟨c, rfl⟩ ⟨c', rfl⟩ ht ht' h
      rw [heq]
      exact ⟨rfl, htt⟩
    | value v' =>
      rw [Expr.pieces, Expr.pieces] at h
      exact absurd (List.cons.inj h).1 (by decide)
  | value v =>
    cases he' with
    | column c' =>
      rw [Expr.pieces, Expr.pieces] at h
      exact absurd (List.cons.inj h).1 (by decide)
    | value v' =>
      rw [Expr.pieces, Expr.pieces] at h
      exact ⟨rfl, (List.cons.inj h).2⟩

theorem isNull_ne_operator (op : Operator) :
    " IS NULL".toList ++ t ≠ " ".toList ++ (op.sql.toList ++ (" ".toList ++ t')) := by
  cases op <;> simp [Operator.sql]

/-- Comparisons are told apart: after the column comes an operator, or a word that is none. -/
theorem IsTest.append_inj {e e' : Expr} (he : IsTest e) (he' : IsTest e') (ht : Apart t)
    (ht' : Apart t') (h : render e.pieces ++ t = render e'.pieces ++ t') :
    e.outline = e'.outline ∧ t = t' := by
  have hnull : ∀ u, Apart (" IS NULL".toList ++ u) := Bare.head?_append_ne (by decide)
  have hblank : ∀ u, Apart (" ".toList ++ u) := Bare.head?_append_ne (by decide)
  cases he with
  | isNull c =>
    cases he' with
    | isNull c' =>
      simp only [Expr.pieces, render_append, render_cons, render_nil, Piece.text,
        List.append_assoc, List.nil_append] at h
      obtain ⟨rfl, htt⟩ := Column.append_inj (hnull t) (hnull t') h
      exact ⟨rfl, List.append_cancel_left htt⟩
    | compare op' c' hrhs' =>
      simp only [Expr.pieces, render_append, render_cons, render_nil, Piece.text,
        List.append_assoc, List.nil_append] at h
      exact absurd (Column.append_inj (hnull t) (hblank _) h).2 (isNull_ne_operator op')
  | compare op c hrhs =>
    cases he' with
    | isNull c' =>
      simp only [Expr.pieces, render_append, render_cons, render_nil, Piece.text,
        List.append_assoc, List.nil_append] at h
      exact absurd (Column.append_inj (hblank _) (hnull t') h).2.symm (isNull_ne_operator op)
    | compare op' c' hrhs' =>
      simp only [Expr.pieces, render_append, render_cons, render_nil, Piece.text,
        List.append_assoc, List.nil_append] at h
      obtain ⟨hc, h⟩ := Column.append_inj (hblank _) (hblank _) h
      obtain ⟨hop, h⟩ := operator_append_inj (List.append_cancel_left h)
      obtain ⟨hrhs, htt⟩ := hrhs.append_inj hrhs' ht ht' h
      refine ⟨?_, htt⟩
      rw [hc, hop]
      exact congrArg (Expr.binary op' (.column c')) hrhs

end Tests

/-! ## Conditions -/

/-- A SELECT from a table that is ordered and grouped by columns. -/
structure FromTable (s : Select) : Prop where
  source : ∃ name label, s.source = some (.table name label)
  keys : ∀ e ∈ s.groupBy, IsColumn e
  orders : ∀ item ∈ s.orderBy, IsColumn item.1

/-- A condition as compilation builds it. -/
inductive IsCondition : Expr → Prop
  | test {e : Expr} (test : IsTest e) : IsCondition e
  | and {es : List Expr} (each : ∀ e ∈ es, IsCondition e) : IsCondition (.and es)
  | or {es : List Expr} (each : ∀ e ∈ es, IsCondition e) : IsCondition (.or es)
  | not {e : Expr} (operand : IsCondition e) : IsCondition (.not e)
  | existsIn {s : Select} (projection : s.projection = [(.integer 1, none)]) (table : FromTable s)
      (filter : ∀ e, s.filter = some e → IsCondition e) : IsCondition (.existsIn s)

/-- An expression that is told apart from conditions. -/
def Decodable (e : Expr) : Prop :=
  ∀ e', IsCondition e' → ToldApart Expr.pieces Expr.outline e e'

/-- The kinds of conditions that their first characters tell apart. -/
inductive Kind where
  | test
  | junction
  | negation
  | existence

/-- The kind of an expression that is a condition. -/
def Expr.kind : Expr → Kind
  | .and _ => .junction
  | .or _ => .junction
  | .not _ => .negation
  | .existsIn _ => .existence
  | _ => .test

/-- The kind of a condition with the given first character. -/
def Kind.ofChar (c : Char) : Kind :=
  if c = identifierQuote then .test
  else if c = 'N' then .negation
  else if c = 'E' then .existence
  else .junction

theorem IsCondition.head?_eq {e : Expr} (he : IsCondition e) (t : List Char) :
    ((render e.pieces ++ t).head?.map Kind.ofChar) = some e.kind := by
  cases he with
  | test h =>
    cases h <;> simp only [Expr.pieces] <;> rfl
  | @and es _ => cases es <;> simp only [Expr.pieces, Expr.combined] <;> rfl
  | @or es _ => cases es <;> simp only [Expr.pieces, Expr.combined] <;> rfl
  | not _ => simp only [Expr.pieces]; rfl
  | existsIn _ _ _ => simp only [Expr.pieces]; rfl

theorem IsCondition.kind_eq {e e' : Expr} (he : IsCondition e) (he' : IsCondition e')
    {t t' : List Char} (h : render e.pieces ++ t = render e'.pieces ++ t') : e.kind = e'.kind := by
  have hhead := he.head?_eq t
  rw [h, he'.head?_eq t'] at hhead
  exact (Option.some.inj hhead).symm

theorem IsTest.kind_eq {e : Expr} (h : IsTest e) : e.kind = .test := by
  cases h <;> rfl

/-- An expression that joins conditions with a word between them. -/
inductive IsJunction : String → Expr → List Expr → Prop
  | and (es : List Expr) : IsJunction " AND " (.and es) es
  | or (es : List Expr) : IsJunction " OR " (.or es) es

theorem IsCondition.test_of_kind {e : Expr} (he : IsCondition e) (hkind : e.kind = .test) :
    IsTest e := by
  cases he with
  | test h => exact h
  | and _ => cases hkind
  | or _ => cases hkind
  | not _ => cases hkind
  | existsIn _ _ _ => cases hkind

theorem IsCondition.junction_of_kind {e : Expr} (he : IsCondition e) (hkind : e.kind = .junction) :
    ∃ word es, IsJunction word e es ∧ ∀ e ∈ es, IsCondition e := by
  cases he with
  | test h => cases h.kind_eq.symm.trans hkind
  | and each => exact ⟨_, _, .and _, each⟩
  | or each => exact ⟨_, _, .or _, each⟩
  | not _ => cases hkind
  | existsIn _ _ _ => cases hkind

theorem IsCondition.not_of_kind {e : Expr} (he : IsCondition e) (hkind : e.kind = .negation) :
    ∃ operand, e = .not operand ∧ IsCondition operand := by
  cases he with
  | test h => cases h.kind_eq.symm.trans hkind
  | and _ => cases hkind
  | or _ => cases hkind
  | not h => exact ⟨_, rfl, h⟩
  | existsIn _ _ _ => cases hkind

theorem IsCondition.existsIn_of_kind {e : Expr} (he : IsCondition e)
    (hkind : e.kind = .existence) :
    ∃ s, e = .existsIn s ∧ s.projection = [(.integer 1, none)] ∧ FromTable s ∧
      ∀ e, s.filter = some e → IsCondition e := by
  cases he with
  | test h => cases h.kind_eq.symm.trans hkind
  | and _ => cases hkind
  | or _ => cases hkind
  | not _ => cases hkind
  | existsIn projection table filter => exact ⟨_, rfl, projection, table, filter⟩

section Conditions

variable {t t' : List Char}

/-- Conjunctions and disjunctions are told apart from each other if they join two conditions or
more. -/
theorem combined_append_inj {word word' : String} (hword : word ∈ separators)
    (hword' : word' ∈ separators) {es es' : List Expr} (hes : ∀ e ∈ es, Decodable e)
    (hes' : ∀ e ∈ es', IsCondition e)
    (h : render (Expr.combined word es) ++ t = render (Expr.combined word' es') ++ t') :
    es.map Expr.outline = es'.map Expr.outline ∧ t = t' ∧ (2 ≤ es.length → word = word') := by
  cases es with
  | nil =>
    cases es' with
    | nil =>
      rw [Expr.combined_nil, Expr.combined_nil] at h
      exact ⟨rfl, List.append_cancel_left h, fun hlength => absurd hlength (by decide)⟩
    | cons e' es' =>
      rw [Expr.combined_nil, Expr.combined_cons] at h
      exact absurd (List.cons.inj h).1 (by decide)
  | cons e es =>
    cases es' with
    | nil =>
      rw [Expr.combined_nil, Expr.combined_cons] at h
      exact absurd (List.cons.inj h).1 (by decide)
    | cons e' es' =>
      have hclose : ∀ u, Begins afterJoins (")".toList ++ u) := begins_append (by decide)
      simp only [Expr.combined_cons, render_append, render_cons, render_nil, Piece.text,
        List.append_assoc, List.nil_append] at h
      obtain ⟨hall, htt, hsame⟩ := separated_append_inj (g := Expr.outline) hword hword'
        (fun y hy y' hy' => hes y hy y' (hes' y' hy'))
        (hclose t) (hclose t') (List.append_cancel_left h)
      refine ⟨hall, List.append_cancel_left htt, fun hlength => hsame ?_⟩
      rintro rfl
      simp at hlength

namespace IsJunction

variable {word word' : String} {e e' : Expr} {es es' : List Expr}

theorem mem_separators (h : IsJunction word e es) : word ∈ separators := by
  cases h <;> decide

theorem pieces_eq (h : IsJunction word e es) : e.pieces = Expr.combined word es := by
  cases h <;> rw [Expr.pieces]

/-- With fewer than two conditions it makes no difference how they are joined. -/
theorem outline_eq_and (h : IsJunction word e es) (hlength : es.length < 2) :
    e.outline = .and (es.map Expr.outline) := by
  cases h with
  | and => exact Expr.outline_and es
  | or =>
    rw [Expr.outline_or]
    rcases es with _ | ⟨e, _ | ⟨e', es⟩⟩
    · rfl
    · rfl
    · simp only [List.length_cons] at hlength
      omega

theorem outline_congr (h : IsJunction word e es) (h' : IsJunction word' e' es')
    (hword : word = word') (hes : es.map Expr.outline = es'.map Expr.outline) :
    e.outline = e'.outline := by
  cases h with
  | and =>
    cases h' with
    | and => rw [Expr.outline_and, Expr.outline_and, hes]
    | or => exact absurd hword (by decide)
  | or =>
    cases h' with
    | and => exact absurd hword (by decide)
    | or => rw [Expr.outline_or, Expr.outline_or, hes]

theorem append_inj (h : IsJunction word e es) (h' : IsJunction word' e' es')
    (hes : ∀ e ∈ es, Decodable e) (hes' : ∀ e ∈ es', IsCondition e)
    (heq : render e.pieces ++ t = render e'.pieces ++ t') : e.outline = e'.outline ∧ t = t' := by
  rw [h.pieces_eq, h'.pieces_eq] at heq
  obtain ⟨hall, htt, hword⟩ := combined_append_inj h.mem_separators h'.mem_separators hes hes' heq
  refine ⟨?_, htt⟩
  by_cases hlength : es.length < 2
  · have hlength' : es'.length < 2 := by
      have := congrArg List.length hall
      rw [List.length_map, List.length_map] at this
      omega
    rw [h.outline_eq_and hlength, h'.outline_eq_and hlength', hall]
  · exact h.outline_congr h' (hword (by omega)) hall

end IsJunction

/-! ## Clauses -/

/-- The clauses of a SELECT after its projection. -/
def Select.clauses (s : Select) : List Piece :=
  Select.sourcePieces s.source ++ (s.joins.flatMap Join.pieces ++ (Select.filterPieces s.filter ++
    (listClause " GROUP BY " Expr.pieces s.groupBy ++
      (listClause " ORDER BY " criterionPieces s.orderBy ++ Limit.piecesOf? s.limit))))

theorem Select.pieces_eq_clauses (s : Select) :
    s.pieces = [.word "SELECT "] ++ (separated ", " itemPieces s.projection ++ s.clauses) := by
  simp only [Select.pieces_eq, Select.clauses, List.append_assoc]

/-- Two SELECTs that differ at most in their projections and in what an outline forgets. -/
structure ClausesAgree (s s' : Select) : Prop where
  source : s.source = s'.source
  joins : s.joins = s'.joins
  filter : s.filter.map Expr.outline = s'.filter.map Expr.outline
  groupBy : s.groupBy = s'.groupBy
  orderBy : s.orderBy = s'.orderBy
  limit : s.limit = s'.limit

theorem ClausesAgree.outline_eq {s s' : Select} (h : ClausesAgree s s')
    (hprojection : Select.rewordProjection .outline s.projection =
      Select.rewordProjection .outline s'.projection) : s.outline = s'.outline := by
  have hfilter : Select.rewordFilter .outline s.filter =
      Select.rewordFilter .outline s'.filter := by
    rw [Select.rewordFilter_eq, Select.rewordFilter_eq]
    exact h.filter
  rw [Select.outline, Select.outline, Select.reword_eq, Select.reword_eq, hprojection, h.source,
    h.joins, hfilter, h.groupBy, h.orderBy, h.limit]

theorem filterPieces_append_inj {filter filter' : Option Expr}
    (hfilter : ∀ e, filter = some e → Decodable e)
    (hfilter' : ∀ e, filter' = some e → IsCondition e) (ht : Begins afterFilter t)
    (ht' : Begins afterFilter t')
    (h : render (Select.filterPieces filter) ++ t = render (Select.filterPieces filter') ++ t') :
    filter.map Expr.outline = filter'.map Expr.outline ∧ t = t' := by
  cases filter with
  | none =>
    cases filter' with
    | none => exact ⟨rfl, List.append_cancel_left h⟩
    | some e' =>
      rw [Select.filterPieces, Select.filterPieces, render_cons, List.append_assoc] at h
      exact absurd h.symm (ht.append_ne (by decide) _)
  | some e =>
    cases filter' with
    | none =>
      rw [Select.filterPieces, Select.filterPieces, render_cons, List.append_assoc] at h
      exact absurd h (ht'.append_ne (by decide) _)
    | some e' =>
      rw [Select.filterPieces, Select.filterPieces, render_cons, render_cons, List.append_assoc,
        List.append_assoc] at h
      obtain ⟨he, htt⟩ := hfilter e rfl e' (hfilter' e' rfl) _ _ (ht.apart (by decide))
        (ht'.apart (by decide)) (List.append_cancel_left h)
      exact ⟨congrArg some he, htt⟩

theorem begins_filter (filter : Option Expr) (ht : Begins afterFilter t) :
    Begins afterJoins (render (Select.filterPieces filter) ++ t) := by
  cases filter with
  | none => exact ht.mono (List.subset_cons_self _ _)
  | some e =>
    rw [Select.filterPieces, render_cons, List.append_assoc]
    exact begins_append List.mem_cons_self _

/-- The clauses of SELECTs between parentheses are told apart, from the source to the limit. -/
theorem clauses_append_inj {s s' : Select} (hs : FromTable s) (hs' : FromTable s')
    (hfilter : ∀ e, s.filter = some e → Decodable e)
    (hfilter' : ∀ e, s'.filter = some e → IsCondition e)
    (h : render s.clauses ++ (")".toList ++ t) = render s'.clauses ++ (")".toList ++ t')) :
    ClausesAgree s s' ∧ t = t' := by
  obtain ⟨name, label, hsource⟩ := hs.source
  obtain ⟨name', label', hsource'⟩ := hs'.source
  -- after each clause comes one of the later clauses or the parenthesis
  have hclose : ∀ u, Begins afterLimit (")".toList ++ u) := begins_append (by decide)
  have hlimit : ∀ l u, Begins afterOrders (render (Limit.piecesOf? l) ++ (")".toList ++ u)) :=
    fun l u => begins_limit l (hclose u)
  have horders : ∀ items l u, Begins afterKeys (render (listClause " ORDER BY " criterionPieces
      items) ++ (render (Limit.piecesOf? l) ++ (")".toList ++ u))) :=
    fun items l u => begins_listClause criterionPieces items (hlimit l u)
  have hkeys : ∀ keys items l u, Begins afterFilter (render (listClause " GROUP BY " Expr.pieces
      keys) ++ (render (listClause " ORDER BY " criterionPieces items) ++
        (render (Limit.piecesOf? l) ++ (")".toList ++ u)))) :=
    fun keys items l u => begins_listClause Expr.pieces keys (horders items l u)
  have hwhere := fun filter keys items l u => begins_filter filter (hkeys keys items l u)
  have hjoins := fun joins filter keys items l u =>
    (begins_joins joins (hwhere filter keys items l u)).apart (by decide)
  simp only [Select.clauses, hsource, hsource', Select.sourcePieces, render_append, render_cons,
    render_nil, Piece.text, List.append_assoc, List.nil_append] at h
  obtain ⟨hname, h⟩ := name_append_inj (by decide) (List.append_cancel_left h)
  obtain ⟨hlabel, h⟩ := quoted_append_inj (hjoins _ _ _ _ _ _) (hjoins _ _ _ _ _ _) h
  obtain ⟨hjoin, h⟩ := joins_append_inj (hwhere _ _ _ _ _) (hwhere _ _ _ _ _) h
  obtain ⟨hcond, h⟩ := filterPieces_append_inj hfilter hfilter' (hkeys _ _ _ _) (hkeys _ _ _ _) h
  obtain ⟨hkey, h⟩ := listClause_append_inj (by decide) (by decide)
    (fun e he e' he' _ _ hu hu' => (hs.keys e he).append_inj (hs'.keys e' he') hu hu')
    (horders _ _ _) (horders _ _ _) h
  obtain ⟨horder, h⟩ := listClause_append_inj (by decide) (by decide)
    (fun f hf f' hf' _ _ _ _ => criterion_append_inj (hs.orders f hf) (hs'.orders f' hf'))
    (hlimit _ _) (hlimit _ _) h
  obtain ⟨hcount, h⟩ := Limit.append_inj (hclose _) (hclose _) h
  refine ⟨⟨?_, hjoin, hcond, hkey, horder, hcount⟩, List.append_cancel_left h⟩
  rw [hsource, hsource', hname, hlabel]

/-- A SELECT that only asks whether there are rows is told apart by its clauses. -/
theorem existsSelect_append_inj {s s' : Select} (hprojection : s.projection = [(.integer 1, none)])
    (hprojection' : s'.projection = [(.integer 1, none)]) (hs : FromTable s) (hs' : FromTable s')
    (hfilter : ∀ e, s.filter = some e → Decodable e)
    (hfilter' : ∀ e, s'.filter = some e → IsCondition e)
    (h : render s.pieces ++ (")".toList ++ t) = render s'.pieces ++ (")".toList ++ t')) :
    s.outline = s'.outline ∧ t = t' := by
  rw [Select.pieces_eq_clauses, Select.pieces_eq_clauses, hprojection, hprojection'] at h
  simp only [render_append, List.append_assoc] at h
  obtain ⟨hclauses, htt⟩ := clauses_append_inj hs hs' hfilter hfilter'
    (List.append_cancel_left (List.append_cancel_left h))
  exact ⟨hclauses.outline_eq (by rw [hprojection, hprojection']), htt⟩

/-- Conditions are told apart. The induction is on the first of them; the second is of the same
kind. -/
theorem IsCondition.append_inj {e : Expr} (he : IsCondition e) : Decodable e := by
  have hclose : ∀ u, Apart (")".toList ++ u) := Bare.head?_append_ne (by decide)
  induction he with
  | test h =>
    intro e' he' t t' ht ht' heq
    have hkind := (IsCondition.test h).kind_eq he' heq
    exact h.append_inj (he'.test_of_kind (hkind.symm.trans h.kind_eq)) ht ht' heq
  | and each ih =>
    intro e' he' t t' _ _ heq
    obtain ⟨word', es', h', each'⟩ :=
      he'.junction_of_kind ((IsCondition.and each).kind_eq he' heq).symm
    exact (IsJunction.and _).append_inj h' ih each' heq
  | or each ih =>
    intro e' he' t t' _ _ heq
    obtain ⟨word', es', h', each'⟩ :=
      he'.junction_of_kind ((IsCondition.or each).kind_eq he' heq).symm
    exact (IsJunction.or _).append_inj h' ih each' heq
  | not operand ih =>
    intro e' he' t t' _ _ heq
    obtain ⟨e', rfl, operand'⟩ := he'.not_of_kind ((IsCondition.not operand).kind_eq he' heq).symm
    simp only [Expr.pieces, render_append, render_cons, render_nil, Piece.text,
      List.append_assoc, List.nil_append] at heq
    obtain ⟨he, htt⟩ := ih e' operand' _ _ (hclose t) (hclose t') (List.append_cancel_left heq)
    exact ⟨congrArg Expr.not he, List.append_cancel_left htt⟩
  | existsIn projection table filter ih =>
    intro e' he' t t' _ _ heq
    obtain ⟨s', rfl, projection', table', filter'⟩ := he'.existsIn_of_kind
      ((IsCondition.existsIn projection table filter).kind_eq he' heq).symm
    simp only [Expr.pieces, render_append, render_cons, render_nil, Piece.text,
      List.append_assoc, List.nil_append] at heq
    obtain ⟨hs, htt⟩ := existsSelect_append_inj projection projection' table table' ih filter'
      (List.append_cancel_left heq)
    exact ⟨congrArg Expr.existsIn hs, htt⟩

end Conditions

/-! ## Levels -/

open Selection (foldSelect outline_foldSelect rowColumn rowsKey)

/-- The value of an entry of a row: a column, or a statement. -/
inductive IsEntry : Expr → Prop
  | column (c : Column) : IsEntry (.column c)
  | nested (s : Select) : IsEntry (.json (.subquery s))

/-- A level as compilation builds it: its rows are objects of columns and of levels. -/
inductive IsLevel : Select → Prop
  | fold {rows : Select} {entries : List (String × Expr)}
      (projection : rows.projection = [(.jsonObject entries, some rowColumn)])
      (table : FromTable rows) (filter : ∀ e, rows.filter = some e → IsCondition e)
      (each : ∀ f ∈ entries, IsEntry f.2)
      (nested : ∀ f ∈ entries, ∀ s, f.2 = .json (.subquery s) → IsLevel s) :
      IsLevel (foldSelect rows)

section Levels

variable {t t' : List Char}

/-- Entries are told apart if the statements in them are, which stand between parentheses. -/
theorem entry_toldApart {f f' : String × Expr} (hf : IsEntry f.2) (hf' : IsEntry f'.2)
    (hnested : ∀ s s', f.2 = .json (.subquery s) → f'.2 = .json (.subquery s') → ∀ u u',
      render s.pieces ++ (")".toList ++ u) = render s'.pieces ++ (")".toList ++ u') →
      s.outline = s'.outline ∧ u = u') :
    ToldApart entryPieces entryOutline f f' := by
  intro t t' ht ht' h
  obtain ⟨key, e⟩ := f
  obtain ⟨key', e'⟩ := f'
  simp only [entryPieces, render_append, render_cons, render_nil, Piece.text, List.append_assoc,
    List.nil_append] at h
  obtain ⟨hkey, h⟩ := name_append_inj (by decide) h
  cases hf with
  | column c =>
    cases hf' with
    | column c' =>
      obtain ⟨hc, htt⟩ := IsColumn.append_inj ⟨c, rfl⟩ ⟨c', rfl⟩ ht ht' h
      exact ⟨Prod.ext hkey (congrArg Expr.outline hc), htt⟩
    | nested s' =>
      rw [Expr.pieces, Expr.pieces] at h
      exact absurd (List.cons.inj h).1 (by decide)
  | nested s =>
    cases hf' with
    | column c' =>
      rw [Expr.pieces, Expr.pieces] at h
      exact absurd (List.cons.inj h).1 (by decide)
    | nested s' =>
      simp only [Expr.pieces, render_append, render_cons, render_nil, Piece.text,
        List.append_assoc, List.nil_append] at h
      obtain ⟨hs, h⟩ := hnested s s' rfl rfl _ _
        (List.append_cancel_left (List.append_cancel_left h))
      refine ⟨Prod.ext hkey ?_, List.append_cancel_left h⟩
      exact congrArg (fun s => Expr.json (.subquery s)) hs

theorem entries_append_inj {entries entries' : List (String × Expr)}
    (hentry : ∀ f ∈ entries, ∀ f' ∈ entries', ToldApart entryPieces entryOutline f f')
    (h : render (Expr.entries entries) ++ (")".toList ++ t) =
      render (Expr.entries entries') ++ (")".toList ++ t')) :
    Expr.rewordEntries .outline entries = Expr.rewordEntries .outline entries' ∧ t = t' := by
  have hclose : ∀ u, Begins afterJoins (")".toList ++ u) := begins_append (by decide)
  rw [Expr.entries_eq, Expr.entries_eq] at h
  rw [Expr.rewordEntries_eq, Expr.rewordEntries_eq]
  cases entries with
  | nil =>
    cases entries' with
    | nil => exact ⟨rfl, List.append_cancel_left h⟩
    | cons f' entries' => exact absurd (List.cons.inj h).1 (by decide)
  | cons f entries =>
    cases entries' with
    | nil => exact absurd (List.cons.inj h).1 (by decide)
    | cons f' entries' =>
      obtain ⟨hall, htt, -⟩ := separated_append_inj (by decide) (by decide) hentry (hclose t)
        (hclose t') h
      exact ⟨hall, List.append_cancel_left htt⟩

/-- The rows of a level stand between parentheses, and what stands before them is always the
same. -/
theorem foldSelect_pieces : ∃ before : List Piece, ∀ rows,
    (foldSelect rows).pieces = before ++ (rows.pieces ++ [.word ")"]) := by
  refine ⟨[.word "SELECT "] ++ itemPieces (.jsonObject [(rowsKey, .jsonGroupArray (.json (.ident
    rowColumn)))], none) ++ [.word " FROM ", .word "("], fun rows => ?_⟩
  simp [Select.pieces_eq, foldSelect, separated, listClause, Select.sourcePieces,
    Select.filterPieces, Limit.piecesOf?]

/-- The rows of levels are told apart by their entries and by their clauses. -/
theorem rows_append_inj {rows rows' : Select} {entries entries' : List (String × Expr)}
    (hprojection : rows.projection = [(.jsonObject entries, some rowColumn)])
    (hprojection' : rows'.projection = [(.jsonObject entries', some rowColumn)])
    (hrows : FromTable rows) (hrows' : FromTable rows')
    (hfilter : ∀ e, rows.filter = some e → IsCondition e)
    (hfilter' : ∀ e, rows'.filter = some e → IsCondition e)
    (hentry : ∀ f ∈ entries, ∀ f' ∈ entries', ToldApart entryPieces entryOutline f f')
    (h : render rows.pieces ++ (")".toList ++ t) = render rows'.pieces ++ (")".toList ++ t')) :
    rows.outline = rows'.outline ∧ t = t' := by
  simp only [Select.pieces_eq_clauses, hprojection, hprojection', separated, itemPieces,
    labelPieces, Expr.pieces, List.flatMap_nil, render_append, render_cons, render_nil,
    List.append_assoc, List.nil_append] at h
  obtain ⟨hentries, h⟩ := entries_append_inj hentry
    (List.append_cancel_left (List.append_cancel_left h))
  obtain ⟨hclauses, htt⟩ := clauses_append_inj hrows hrows'
    (fun e he => (hfilter e he).append_inj) hfilter'
    (List.append_cancel_left (List.append_cancel_left h))
  refine ⟨hclauses.outline_eq ?_, htt⟩
  simp only [hprojection, hprojection', Select.rewordProjection, Expr.reword, hentries]

/-- Levels are told apart. The induction is on the first of them, through the levels in its
entries. -/
theorem IsLevel.append_inj {s s' : Select} (hs : IsLevel s) (hs' : IsLevel s') {t t' : List Char}
    (h : render s.pieces ++ (")".toList ++ t) = render s'.pieces ++ (")".toList ++ t')) :
    s.outline = s'.outline ∧ t = t' := by
  obtain ⟨before, hbefore⟩ := foldSelect_pieces
  induction hs generalizing s' t t' with
  | fold projection table filter each nested ih =>
    cases hs' with
    | fold projection' table' filter' each' nested' =>
      simp only [hbefore, render_append, render_cons, render_nil, Piece.text, List.append_assoc,
        List.nil_append] at h
      obtain ⟨hrows, htt⟩ := rows_append_inj projection projection' table table' filter filter'
        (fun f hf f' hf' => entry_toldApart (each f hf) (each' f' hf')
          fun s s' hs hs' _ _ => ih f hf s hs (nested' f' hf' s' hs'))
        (List.append_cancel_left h)
      rw [outline_foldSelect, outline_foldSelect, hrows]
      exact ⟨rfl, List.append_cancel_left htt⟩

end Levels

theorem render_scalar (s : Select) (label : Option String) :
    render (Select.scalar (.subquery s) label).pieces = "SELECT ".toList ++ ("(".toList ++
      (render s.pieces ++ (")".toList ++ render (labelPieces label)))) := by
  simp [Select.pieces_eq, Select.scalar, separated, itemPieces, listClause, Expr.pieces,
    Select.sourcePieces, Select.filterPieces, Limit.piecesOf?, Piece.text]

theorem isCondition_andAll {es : List Expr} (hes : ∀ e ∈ es, IsCondition e) (e : Expr)
    (h : Expr.andAll es = some e) : IsCondition e := by
  rcases es with _ | ⟨e', _ | ⟨e'', es⟩⟩
  · cases h
  · cases h
    exact hes e List.mem_cons_self
  · cases h
    exact .and hes

end CollectionSql.Sql

/-! ## The trees of compiled statements -/

namespace CollectionSql.Selection

open Sql (IsColumn IsCondition IsEntry IsLevel FromTable)
open Statement (ColumnRef Condition Operand Order Query)

section

variable {env : Env} {o : Occurrence}

theorem isColumn_of_columnExpr {c : ColumnRef} {js js' : Joins} {e : Sql.Expr}
    (h : columnExpr env o c js = .ok (e, js')) : IsColumn e := by
  obtain ⟨target, hs, -, -, rfl, -⟩ := columnExpr_eq_ok_iff.mp h
  exact ⟨_, rfl⟩

theorem isCondition_ties (r : Relationship) (parent child : String) :
    ∀ e ∈ r.columnMapping.map (tieExpr parent child), IsCondition e := by
  intro e he
  obtain ⟨pair, -, rfl⟩ := List.mem_map.mp he
  exact .test (.compare .eq _ (.column _))

theorem isCondition_of_conditions {cs : List Condition}
    (ih : ∀ c ∈ cs, ∀ js e js', condition env c o js = .ok (e, js') → IsCondition e)
    {js js' : Joins} {es : List Sql.Expr} (h : conditions env cs o js = .ok (es, js')) :
    ∀ e ∈ es, IsCondition e := by
  induction cs generalizing js es with
  | nil =>
    rw [(conditions_nil_iff.mp h).1]
    exact List.forall_mem_nil _
  | cons c cs ihcs =>
    obtain ⟨ihc, ihrest⟩ := List.forall_mem_cons.mp ih
    obtain ⟨e, rest, between, he, hrest, rfl⟩ := conditions_cons_iff.mp h
    exact List.forall_mem_cons.mpr ⟨ihc _ _ _ he, ihcs ihrest hrest⟩

theorem isCondition_of_optionalCondition {p : Option Condition}
    (ih : ∀ c, p = some c → ∀ js e js', condition env c o js = .ok (e, js') → IsCondition e)
    {js js' : Joins} {es : List Sql.Expr} (h : optionalCondition env p o js = .ok (es, js')) :
    ∀ e ∈ es, IsCondition e := by
  cases p with
  | none =>
    rw [(optionalCondition_none_iff.mp h).1]
    exact List.forall_mem_nil _
  | some c =>
    obtain ⟨e, he, rfl⟩ := optionalCondition_some_iff.mp h
    exact List.forall_mem_singleton.mpr (ih c rfl _ _ _ he)

theorem isCondition_of_condition (c : Condition) {o : Occurrence} {js js' : Joins} {e : Sql.Expr}
    (h : condition env c o js = .ok (e, js')) : IsCondition e := by
  induction c using Condition.induction generalizing o js e js' with
  | isNull column =>
    obtain ⟨col, hcol, rfl⟩ := condition_isNull_iff.mp h
    obtain ⟨c, rfl⟩ := isColumn_of_columnExpr hcol
    exact .test (.isNull c)
  | compare column op rhs =>
    obtain ⟨known, v, col, -, -, hcol, rfl⟩ := condition_compare_iff.mp h
    obtain ⟨c, rfl⟩ := isColumn_of_columnExpr hcol
    exact .test (.compare known c (.value v))
  | and operands ih =>
    obtain ⟨es, hes, rfl⟩ := condition_and_iff.mp h
    exact .and (isCondition_of_conditions (fun c hc _ _ _ => ih c hc) hes)
  | or operands ih =>
    obtain ⟨es, hes, rfl⟩ := condition_or_iff.mp h
    exact .or (isCondition_of_conditions (fun c hc _ _ _ => ih c hc) hes)
  | not operand ih =>
    obtain ⟨e', he', rfl⟩ := condition_not_iff.mp h
    exact .not (ih he')
  | existsIn target predicate ih =>
    obtain ⟨id, r, c, es, inner, -, -, -, -, hes, rfl, -⟩ := condition_existsIn_iff.mp h
    have hpredicate := isCondition_of_optionalCondition (fun d hd _ _ _ => ih d hd) hes
    refine .existsIn rfl ⟨⟨_, _, rfl⟩, List.forall_mem_nil _, List.forall_mem_nil _⟩ ?_
    exact Sql.isCondition_andAll
      (List.forall_mem_append.mpr ⟨isCondition_ties r _ _, hpredicate⟩)

theorem isColumn_of_orderExprs {orders : List Order} {js js' : Joins}
    {es : List (Sql.Expr × Direction)} (h : orderExprs env o orders js = .ok (es, js')) :
    ∀ item ∈ es, IsColumn item.1 := by
  induction orders generalizing js es with
  | nil =>
    rw [(orderExprs_nil_iff.mp h).1]
    exact List.forall_mem_nil _
  | cons order orders ih =>
    obtain ⟨entry, rest, between, hfirst, hrest, rfl⟩ := orderExprs_cons_iff.mp h
    obtain ⟨c, e, -, he, rfl⟩ := orderExpr_eq_ok_iff.mp hfirst
    exact List.forall_mem_cons.mpr ⟨isColumn_of_columnExpr he, ih hrest⟩

theorem isColumn_rowKey (o : Occurrence) : ∀ e ∈ o.rowKey, IsColumn e := by
  intro e he
  unfold Occurrence.rowKey at he
  split at he
  · rw [List.mem_singleton.mp he]
    exact ⟨_, rfl⟩
  · obtain ⟨column, -, rfl⟩ := List.mem_map.mp he
    exact ⟨_, rfl⟩

theorem fromTable_rowSelect {entries : List (String × Sql.Expr)} {conds : List Sql.Expr}
    {orders : List (Sql.Expr × Direction)} (horders : ∀ item ∈ orders, IsColumn item.1)
    (js : Joins) (limit : Option Sql.Limit) :
    FromTable (rowSelect o entries conds orders js limit) where
  source := ⟨_, _, rfl⟩
  keys := by
    intro e he
    cases hfans : js.fansOut with
    | false =>
      rw [rowSelect, hfans] at he
      exact absurd he List.not_mem_nil
    | true =>
      rw [rowSelect, hfans] at he
      exact isColumn_rowKey o e he
  orders := horders

/-- Compilation builds levels. -/
theorem isLevel_of_level (q : Query) {tie : List Sql.Expr} (htie : ∀ e ∈ tie, IsCondition e)
    {o : Occurrence} {single : Bool} {s : Sql.Select} (h : level env q o tie single = .ok s) :
    IsLevel s := by
  induction q using Query.induction generalizing o tie single s with
  | step q ih =>
    obtain ⟨-, es, conds, js, orders, js', hes, hconds, horders, rfl⟩ := level_eq_ok_iff.mp h
    have hfilter := isCondition_of_optionalCondition
      (fun c _ _ _ _ => isCondition_of_condition c) hconds
    have hentry : ∀ f ∈ es, IsEntry f.2 ∧ ∀ s, f.2 = .json (.subquery s) → IsLevel s := by
      refine forall_mem_entries (P := fun e => IsEntry e ∧ ∀ s, e = .json (.subquery s) →
        IsLevel s) ?_ hes
      intro f hf e he
      obtain ⟨name, field⟩ := f
      cases field with
      | column column =>
        obtain ⟨-, rfl⟩ := entry_column_iff.mp he
        refine ⟨.column _, fun s hs => ?_⟩
        cases hs
      | relationship id nested =>
        obtain ⟨r, c, rows, -, -, -, hrows, rfl⟩ := entry_relationship_iff.mp he
        refine ⟨.nested rows, fun s hs => ?_⟩
        cases hs
        exact ih name id nested hf (isCondition_ties r _ _) hrows
    refine .fold rfl (fromTable_rowSelect (isColumn_of_orderExprs horders) _ _)
      (Sql.isCondition_andAll (List.forall_mem_append.mpr ⟨htie, hfilter⟩))
      (fun f hf => (hentry f hf).1) fun f hf => (hentry f hf).2

end

end CollectionSql.Selection

namespace CollectionSql

open Sql (render)

theorem Plan.exists_level {schema : Schema} {s : Statement} {b : VariableSet} {plan : Plan}
    (h : Plan.compile schema s b = .ok plan) :
    ∃ rows, Sql.IsLevel rows ∧
      plan.select = .scalar (.subquery rows) (some Selection.dataColumn) := by
  rw [Plan.compile, Result.bind_eq_ok] at h
  obtain ⟨select, hselect, hplan⟩ := h
  obtain ⟨root, rows, -, hrows, rfl⟩ := Selection.compile_eq_ok_iff.mp hselect
  rw [← Result.pure_eq_ok.mp hplan]
  exact ⟨rows, Selection.isLevel_of_level s.query (List.forall_mem_nil _) hrows, rfl⟩

/-- **Main theorem.** Two plans have the same text iff their statements are the same up to the bound
values, and up to the difference between a conjunction and a disjunction of fewer than two
conditions. No name makes the text of one statement that of another. -/
theorem Plan.sql_eq_iff_outline_eq {schema schema' : Schema} {s s' : Statement}
    {b b' : VariableSet} {plan plan' : Plan} (h : Plan.compile schema s b = .ok plan)
    (h' : Plan.compile schema' s' b' = .ok plan') :
    plan.sql = plan'.sql ↔ plan.select.outline = plan'.select.outline := by
  constructor
  · intro hsql
    obtain ⟨rows, hrows, hselect⟩ := Plan.exists_level h
    obtain ⟨rows', hrows', hselect'⟩ := Plan.exists_level h'
    have htext : render plan.select.pieces = render plan'.select.pieces := by
      rw [← Sql.Select.toList_text, ← Sql.Select.toList_text]
      exact congrArg String.toList hsql
    simp only [hselect, hselect', Sql.render_scalar] at htext
    obtain ⟨houtline, -⟩ := hrows.append_inj hrows'
      (List.append_cancel_left (List.append_cancel_left htext))
    rw [hselect, hselect', Sql.Select.outline_scalar, Sql.Select.outline_scalar, houtline]
  · intro houtline
    show plan.select.text = plan'.select.text
    rw [← Sql.Select.text_outline, houtline, Sql.Select.text_outline]

/-- Organisations of the shop with the given fields. -/
def orgsWith (fields : List (String × Statement.Field)) : Statement where
  collection := "orgs"
  query := {
    fields
    aggregates := []
    filter := none
    orderBy := []
    limit := none
    offset := none }
  relationships := ⟨[]⟩
  variableSets := none

/-- A key that spells the text of an entry and of the next key does not pass for them. -/
theorem forgedEntries_sql_ne : ∃ plan plan' : Plan,
    Plan.compile shop (orgsWith [("id', \"orgs\".\"id\", 'name", .column "name")]) .empty =
        .ok plan ∧
      Plan.compile shop (orgsWith [("id", .column "id"), ("name", .column "name")]) .empty =
        .ok plan' ∧
      plan.sql ≠ plan'.sql := by
  obtain ⟨plan, hplan⟩ : ∃ plan, Plan.compile shop
      (orgsWith [("id', \"orgs\".\"id\", 'name", .column "name")]) .empty = .ok plan := ⟨_, rfl⟩
  obtain ⟨plan', hplan'⟩ : ∃ plan', Plan.compile shop
      (orgsWith [("id", .column "id"), ("name", .column "name")]) .empty = .ok plan' := ⟨_, rfl⟩
  refine ⟨plan, plan', hplan, hplan', fun hsql => ?_⟩
  have houtline := (Plan.sql_eq_iff_outline_eq hplan hplan').mp hsql
  cases hplan
  cases hplan'
  exact absurd (congrArg (fun s : Sql.Select => s.pieces.length) houtline) (by decide)

end CollectionSql
