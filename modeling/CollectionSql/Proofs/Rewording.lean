import CollectionSql.Proofs.Printing

/-!
# Rewording statements

A rewording changes the names and the bound values in a statement and leaves everything else as it
is. It changes the names and the arguments among the pieces of the text and keeps its fixed words,
so what stands outside of quotes stays the same. A rewording may also write a disjunction in another
way, as long as the text does not tell.

Two rewordings forget things. `Rewording.anonymous` forgets all names and values. What it leaves is
the structure of a statement. `Rewording.outline` forgets the values, and the difference between a
conjunction and a disjunction of fewer than two conditions, which have one text.

Results:
* `Select.pieces_reword`: the pieces of a reworded statement are the reworded pieces.
* `Select.text_outline`: a statement has the text of its outline.
* `unquoted_text_eq_of_anonymous_eq`: statements with the same structure have the same text outside
  of quotes, and it is harmless.
-/

namespace CollectionSql.Sql

/-- A change of names and values, and of the way in which disjunctions are written. -/
structure Rewording where
  name : String → String
  value : Value → Value
  or : List Expr → Expr
  or_pieces : ∀ es, (or es).pieces = Expr.combined " OR " es

namespace Rewording

/-- Forgets all names and values. -/
def anonymous : Rewording where
  name := fun _ => ""
  value := fun _ => .null
  or := .or
  or_pieces := fun es => by rw [Expr.pieces]

/-- The disjunction of conditions, or their conjunction if there are fewer than two. -/
def anyOf : List Expr → Expr
  | [] => .and []
  | [e] => .and [e]
  | e :: e' :: es => .or (e :: e' :: es)

/-- Forgets all values, and whether fewer than two conditions are a conjunction or a disjunction. -/
def outline : Rewording where
  name := id
  value := fun _ => .null
  or := anyOf
  or_pieces := fun es => by
    rcases es with _ | ⟨e, _ | ⟨e', es⟩⟩
    · rw [anyOf, Expr.pieces, Expr.combined, Expr.combined]
    · rw [anyOf, Expr.pieces, Expr.combined, Expr.combined, Expr.following, Expr.following]
    · rw [anyOf, Expr.pieces]

end Rewording

/-! ## Rewording trees -/

section Trees

variable (w : Rewording)

def Column.reword (c : Column) : Column := ⟨w.name c.table, w.name c.column⟩

def Join.reword (j : Join) : Join :=
  ⟨w.name j.table, w.name j.label, j.lhs.reword w, j.rhs.reword w⟩

mutual

/-- An expression. -/
def Expr.reword : Expr → Expr
  | .column c => .column (c.reword w)
  | .ident name => .ident (w.name name)
  | .value v => .value (w.value v)
  | .integer n => .integer n
  | .binary op lhs rhs => .binary op lhs.reword rhs.reword
  | .isNull operand => .isNull operand.reword
  | .and operands => .and (Expr.rewordAll operands)
  | .or operands => w.or (Expr.rewordAll operands)
  | .not operand => .not operand.reword
  | .existsIn select => .existsIn select.reword
  | .subquery select => .subquery select.reword
  | .jsonObject entries => .jsonObject (Expr.rewordEntries entries)
  | .jsonGroupArray operand => .jsonGroupArray operand.reword
  | .json operand => .json operand.reword

/-- A list of expressions. -/
def Expr.rewordAll : List Expr → List Expr
  | [] => []
  | e :: es => e.reword :: Expr.rewordAll es

/-- The keys and values of a JSON object. -/
def Expr.rewordEntries : List (String × Expr) → List (String × Expr)
  | [] => []
  | (key, e) :: rest => (w.name key, e.reword) :: Expr.rewordEntries rest

/-- A statement. -/
def Select.reword : Select → Select
  | ⟨projection, source, joins, filter, groupBy, orderBy, limit⟩ =>
    ⟨Select.rewordProjection projection, Select.rewordSource source, joins.map (Join.reword w),
      Select.rewordFilter filter, Expr.rewordAll groupBy, Select.rewordOrders orderBy, limit⟩

/-- The projected expressions with their labels. -/
def Select.rewordProjection : List (Expr × Option String) → List (Expr × Option String)
  | [] => []
  | (e, label) :: rest => (e.reword, label.map w.name) :: Select.rewordProjection rest

/-- A source clause that may be absent. -/
def Select.rewordSource : Option Source → Option Source
  | none => none
  | some (.table name label) => some (.table (w.name name) (w.name label))
  | some (.subquery select) => some (.subquery select.reword)

/-- A filter that may be absent. -/
def Select.rewordFilter : Option Expr → Option Expr
  | none => none
  | some e => some e.reword

/-- The criteria of an ordering. -/
def Select.rewordOrders : List (Expr × Direction) → List (Expr × Direction)
  | [] => []
  | (e, d) :: rest => (e.reword, d) :: Select.rewordOrders rest

end

theorem Expr.rewordAll_eq (es : List Expr) : Expr.rewordAll w es = es.map (Expr.reword w) := by
  induction es with
  | nil => rw [Expr.rewordAll, List.map_nil]
  | cons e es ih => rw [Expr.rewordAll, ih, List.map_cons]

theorem Expr.rewordEntries_eq (entries : List (String × Expr)) :
    Expr.rewordEntries w entries = entries.map fun f => (w.name f.1, f.2.reword w) := by
  induction entries with
  | nil => rw [Expr.rewordEntries, List.map_nil]
  | cons entry rest ih => rw [Expr.rewordEntries, ih, List.map_cons]

theorem Select.rewordProjection_eq (items : List (Expr × Option String)) :
    Select.rewordProjection w items = items.map fun f => (f.1.reword w, f.2.map w.name) := by
  induction items with
  | nil => rw [Select.rewordProjection, List.map_nil]
  | cons item rest ih => rw [Select.rewordProjection, ih, List.map_cons]

theorem Select.rewordFilter_eq (filter : Option Expr) :
    Select.rewordFilter w filter = filter.map (Expr.reword w) := by
  cases filter <;> rw [Select.rewordFilter] <;> rfl

theorem Select.rewordOrders_eq (items : List (Expr × Direction)) :
    Select.rewordOrders w items = items.map fun f => (f.1.reword w, f.2) := by
  induction items with
  | nil => rw [Select.rewordOrders, List.map_nil]
  | cons item rest ih => rw [Select.rewordOrders, ih, List.map_cons]

theorem Select.reword_eq (s : Select) :
    s.reword w = ⟨Select.rewordProjection w s.projection, Select.rewordSource w s.source,
      s.joins.map (Join.reword w), Select.rewordFilter w s.filter, Expr.rewordAll w s.groupBy,
      Select.rewordOrders w s.orderBy, s.limit⟩ := by
  cases s
  rw [Select.reword]

end Trees

/-- The outline of an expression. -/
def Expr.outline (e : Expr) : Expr := e.reword .outline

/-- An entry of a JSON object with the outline of its value. -/
def entryOutline (f : String × Expr) : String × Expr := (f.1, f.2.outline)

/-- The outline of a statement. -/
def Select.outline (s : Select) : Select := s.reword .outline

theorem Expr.outline_and (es : List Expr) : (Expr.and es).outline = .and (es.map Expr.outline) := by
  rw [Expr.outline, Expr.reword, Expr.rewordAll_eq]
  rfl

theorem Expr.outline_or (es : List Expr) :
    (Expr.or es).outline = Rewording.anyOf (es.map Expr.outline) := by
  rw [Expr.outline, Expr.reword, Expr.rewordAll_eq]
  rfl

theorem Select.outline_scalar (s : Select) (label : Option String) :
    (Select.scalar (.subquery s) label).outline = .scalar (.subquery s.outline) label := by
  simp only [Select.outline, Select.scalar, Select.reword, Select.rewordProjection, Expr.reword,
    Select.rewordSource, Select.rewordFilter, Expr.rewordAll, Select.rewordOrders, List.map_nil]
  cases label <;> rfl

/-! ## Rewording pieces -/

/-- A piece with its name or value changed. -/
def Piece.reword (w : Rewording) : Piece → Piece
  | .word text => .word text
  | .identifier name => .identifier (w.name name)
  | .literal name => .literal (w.name name)
  | .argument v => .argument (w.value v)

section Pieces

variable {w : Rewording}

theorem Column.pieces_reword (c : Column) :
    (c.reword w).pieces = c.pieces.map (Piece.reword w) := rfl

theorem Join.pieces_reword (j : Join) : (j.reword w).pieces = j.pieces.map (Piece.reword w) := rfl

theorem labelPieces_reword (label : Option String) :
    labelPieces (label.map w.name) = (labelPieces label).map (Piece.reword w) := by
  cases label <;> rfl

theorem Limit.map_reword (limit : Option Limit) :
    (Limit.piecesOf? limit).map (Piece.reword w) = Limit.piecesOf? limit := by
  rcases limit with _ | ⟨count, _ | offset⟩ <;> rfl

theorem directionPiece_reword (d : Direction) : (directionPiece d).reword w = directionPiece d := by
  cases d <;> rfl

/-- A list of items that are reworded one by one is reworded as a whole. -/
theorem separated_map {α : Type} {separator : String} {item : α → List Piece} {f : α → α}
    {xs : List α} (h : ∀ x ∈ xs, item (f x) = (item x).map (Piece.reword w)) :
    separated separator item (xs.map f) =
      (separated separator item xs).map (Piece.reword w) := by
  cases xs with
  | nil => rfl
  | cons x xs =>
    obtain ⟨hx, hxs⟩ := List.forall_mem_cons.mp h
    simp only [List.map_cons, separated, List.map_append, List.map_flatMap, List.flatMap_map, hx]
    congr 1
    refine List.flatMap_congr fun y hy => ?_
    rw [hxs y hy]
    rfl

theorem listClause_map {α : Type} {word : String} {item : α → List Piece} {f : α → α}
    {xs : List α} (h : ∀ x ∈ xs, item (f x) = (item x).map (Piece.reword w)) :
    listClause word item (xs.map f) = (listClause word item xs).map (Piece.reword w) := by
  cases xs with
  | nil => rfl
  | cons x xs => exact congrArg (.word word :: ·) (separated_map h)

theorem Expr.combined_map {word : String} {es : List Expr}
    (h : ∀ e ∈ es, (e.reword w).pieces = e.pieces.map (Piece.reword w)) :
    Expr.combined word (es.map (Expr.reword w)) =
      (Expr.combined word es).map (Piece.reword w) := by
  cases es with
  | nil =>
    rw [List.map_nil, Expr.combined_nil]
    rfl
  | cons e es =>
    rw [List.map_cons, Expr.combined_cons, Expr.combined_cons, ← List.map_cons, separated_map h,
      List.map_append, List.map_append]
    rfl

/-- The pieces of a reworded statement are the reworded pieces of the statement. -/
theorem Select.pieces_reword (s : Select) :
    (s.reword w).pieces = s.pieces.map (Piece.reword w) := by
  induction s using Select.induction
    (P := fun e => (e.reword w).pieces = e.pieces.map (Piece.reword w)) with
  | column c => simp only [Expr.reword, Expr.pieces, Column.pieces_reword]
  | ident name => simp only [Expr.reword, Expr.pieces, List.map_cons, List.map_nil, Piece.reword]
  | value v => simp only [Expr.reword, Expr.pieces, List.map_cons, List.map_nil, Piece.reword]
  | integer n =>
    simp only [Expr.reword, Expr.pieces, List.map_cons, List.map_nil, numberPiece, Piece.reword]
  | binary op lhs rhs hlhs hrhs => simp [Expr.reword, Expr.pieces, hlhs, hrhs, Piece.reword]
  | isNull e he => simp [Expr.reword, Expr.pieces, he, Piece.reword]
  | and es hes =>
    rw [Expr.reword, Expr.rewordAll_eq, Expr.pieces, Expr.pieces, Expr.combined_map hes]
  | or es hes =>
    rw [Expr.reword, Expr.rewordAll_eq, w.or_pieces, Expr.pieces, Expr.combined_map hes]
  | not e he => simp [Expr.reword, Expr.pieces, he, Piece.reword]
  | existsIn s hs => simp [Expr.reword, Expr.pieces, hs, Piece.reword]
  | subquery s hs => simp [Expr.reword, Expr.pieces, hs, Piece.reword]
  | jsonObject entries hentries =>
    have hentry : ∀ f ∈ entries,
        entryPieces (w.name f.1, f.2.reword w) = (entryPieces f).map (Piece.reword w) := by
      intro f hf
      simp [entryPieces, hentries f hf, Piece.reword]
    simp [Expr.reword, Expr.rewordEntries_eq, Expr.pieces, Expr.entries_eq, separated_map hentry,
      Piece.reword]
  | jsonGroupArray e he => simp [Expr.reword, Expr.pieces, he, Piece.reword]
  | json e he => simp [Expr.reword, Expr.pieces, he, Piece.reword]
  | select s hprojection hsource hfilter hgroup horder =>
    have hitem : ∀ f ∈ s.projection,
        itemPieces (f.1.reword w, f.2.map w.name) = (itemPieces f).map (Piece.reword w) := by
      intro f hf
      simp [itemPieces, hprojection f hf, labelPieces_reword]
    have hfrom : Select.sourcePieces (Select.rewordSource w s.source) =
        (Select.sourcePieces s.source).map (Piece.reword w) := by
      rcases h : s.source with _ | ⟨name, label⟩ | inner
      · simp [Select.rewordSource, Select.sourcePieces]
      · simp [Select.rewordSource, Select.sourcePieces, Piece.reword]
      · simp [Select.rewordSource, Select.sourcePieces, hsource inner h, Piece.reword]
    have hwhere : Select.filterPieces (Select.rewordFilter w s.filter) =
        (Select.filterPieces s.filter).map (Piece.reword w) := by
      rcases h : s.filter with _ | e
      · simp [Select.rewordFilter, Select.filterPieces]
      · simp [Select.rewordFilter, Select.filterPieces, hfilter e h, Piece.reword]
    have hjoins : (s.joins.map (Join.reword w)).flatMap Join.pieces =
        (s.joins.flatMap Join.pieces).map (Piece.reword w) := by
      rw [List.flatMap_map, List.map_flatMap]
      rfl
    have hcriterion : ∀ f ∈ s.orderBy,
        criterionPieces (f.1.reword w, f.2) = (criterionPieces f).map (Piece.reword w) := by
      intro f hf
      simp [criterionPieces, horder f hf, directionPiece_reword]
    rw [Select.pieces_eq, Select.pieces_eq, Select.reword_eq]
    simp only [Select.rewordProjection_eq, Expr.rewordAll_eq, Select.rewordOrders_eq,
      separated_map hitem, hfrom, hjoins, hwhere, listClause_map hgroup,
      listClause_map hcriterion, List.map_append, Limit.map_reword]
    rfl

/-- A rewording keeps the number of bound values. -/
theorem Select.length_arguments_reword (s : Select) :
    (s.reword w).arguments.length = s.arguments.length := by
  have hvalue : ∀ p : Piece, (p.reword w).value? = p.value?.map w.value := by
    intro p
    cases p <;> rfl
  rw [Select.arguments, Select.arguments, Select.pieces_reword, List.filterMap_map]
  simp only [Function.comp_def, hvalue]
  rw [← List.map_filterMap, List.length_map]

/-- A statement has the text of its outline. -/
theorem Select.text_outline (s : Select) : s.outline.text = s.text := by
  rw [Select.outline, Select.text, Select.text, Select.pieces_reword, List.flatMap_map]
  refine congrArg String.ofList (List.flatMap_congr fun p _ => ?_)
  cases p <;> rfl

end Pieces

/-! ## The text outside of quotes -/

theorem harmless_outside {ps : List Piece} (h : AllHarmless ps) :
    Harmless (ps.flatMap Piece.outside) := by
  have hnothing : Harmless [] := by decide
  have hplaceholder : Harmless ['?'] := by decide
  induction ps with
  | nil => exact hnothing
  | cons p ps ih =>
    obtain ⟨hp, hps⟩ := allHarmless_cons.mp h
    rw [List.flatMap_cons]
    refine Harmless.append ?_ (ih hps)
    cases p with
    | word text => exact hp.1
    | identifier name => exact hnothing
    | literal name => exact hnothing
    | argument v => exact hplaceholder

theorem Piece.outside_reword (w : Rewording) (p : Piece) : (p.reword w).outside = p.outside := by
  cases p <;> rfl

/-- What stands outside of quotes does not change with the names and values. -/
theorem unquoted_text_reword (w : Rewording) (s : Select) :
    unquoted (s.reword w).text = unquoted s.text := by
  rw [unquoted, unquoted, Select.toList_text, Select.toList_text,
    unquotedFrom_render (s.reword w).allHarmless, unquotedFrom_render s.allHarmless,
    Select.pieces_reword, List.flatMap_map]
  exact List.flatMap_congr fun p _ => p.outside_reword w

/-- **Main theorem.** Statements that differ only in names and bound values have the same text
outside of quotes. Nothing in that text is a quote or ends the statement, and no comment starts in
it. -/
theorem unquoted_text_eq_of_anonymous_eq {s s' : Select}
    (h : s.reword .anonymous = s'.reword .anonymous) :
    unquoted s.text = unquoted s'.text ∧
      (∀ c ∈ unquoted s.text, c ≠ ';' ∧ c ≠ stringQuote ∧ c ≠ identifierQuote) ∧
      ¬['-', '-'] <:+: unquoted s.text ∧ ¬['/', '*'] <:+: unquoted s.text := by
  have hharmless : Harmless (unquoted s.text) := by
    rw [unquoted, Select.toList_text, unquotedFrom_render s.allHarmless]
    exact harmless_outside s.allHarmless
  refine ⟨?_, ?_, ?_, ?_⟩
  · rw [← unquoted_text_reword .anonymous s, h, unquoted_text_reword]
  · intro c hc
    have hallowed := hharmless.allowed c hc
    simp only [forbidden, List.mem_cons, not_or] at hallowed
    exact ⟨hallowed.2.2.1, hallowed.1, hallowed.2.1⟩
  · intro hcomment
    have hchain := hharmless.dashes.infix hcomment
    simp at hchain
  · intro hcomment
    exact hharmless.allowed '/' (hcomment.subset List.mem_cons_self) (by decide)

/-- The rows of a table in which a column has a value. -/
def lookup (table label column key : String) (v : Value) : Select where
  projection := [(.jsonObject [(key, .col label column)], some key)]
  source := some (.table table label)
  joins := []
  filter := some (.binary .eq (.col label column) (.value v))
  groupBy := []
  orderBy := []
  limit := none

/-- Names that try to end the statement or to start a comment are as good as any. -/
theorem lookup_unquoted_eq :
    unquoted (lookup "users" "u" "name" "n" (.string "Ann")).text =
        unquoted (lookup "x\"; DROP TABLE users; --" "'\"'" "/*" "o'brien" .null).text ∧
      ';' ∉ unquoted (lookup "x\"; DROP TABLE users; --" "'\"'" "/*" "o'brien" .null).text := by
  have hsame : (lookup "x\"; DROP TABLE users; --" "'\"'" "/*" "o'brien" .null).reword .anonymous =
      (lookup "users" "u" "name" "n" (.string "Ann")).reword .anonymous := rfl
  obtain ⟨heq, hallowed, -⟩ := unquoted_text_eq_of_anonymous_eq hsame
  exact ⟨heq.symm, fun h => (hallowed _ h).1 rfl⟩

end CollectionSql.Sql
