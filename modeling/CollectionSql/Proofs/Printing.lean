import Mathlib.Data.List.Chain
import CollectionSql.Proofs.Quoting
import CollectionSql.Sql.Printer

/-!
# What a printed statement is made of

A statement is printed as pieces. Its names stand between quotes and its values are placeholders, so
all that stands outside of quotes are the fixed words of the printer, numbers and placeholders. The
fixed words and the numbers are harmless: none has a quote, a placeholder or a semicolon, and none
starts a comment, alone or together with its neighbours.

Results:
* `Select.induction`: a property of statements, from the expressions and statements inside them.
* `separated`, `listClause`: the forms in which the printer writes lists.
* `Select.allHarmless`: the pieces of every statement are harmless.
* `after_render`, `unquotedFrom_render`: a scanner leaves printed pieces outside of quotes, and it
  has seen their fixed words and placeholders.
-/

namespace CollectionSql.Sql

/-! ## Induction over trees -/

section Induction

variable {P : Expr → Prop} {Q : Select → Prop}
  (column : ∀ c, P (.column c)) (ident : ∀ name, P (.ident name)) (value : ∀ v, P (.value v))
  (integer : ∀ n, P (.integer n)) (binary : ∀ op lhs rhs, P lhs → P rhs → P (.binary op lhs rhs))
  (isNull : ∀ e, P e → P (.isNull e)) (and : ∀ es, (∀ e ∈ es, P e) → P (.and es))
  (or : ∀ es, (∀ e ∈ es, P e) → P (.or es)) (not : ∀ e, P e → P (.not e))
  (existsIn : ∀ s, Q s → P (.existsIn s)) (subquery : ∀ s, Q s → P (.subquery s))
  (jsonObject : ∀ entries : List (String × Expr), (∀ entry ∈ entries, P entry.2) →
    P (.jsonObject entries))
  (jsonGroupArray : ∀ e, P e → P (.jsonGroupArray e)) (json : ∀ e, P e → P (.json e))
  (select : ∀ s : Select, (∀ item ∈ s.projection, P item.1) →
    (∀ inner, s.source = some (.subquery inner) → Q inner) → (∀ e, s.filter = some e → P e) →
    (∀ e ∈ s.groupBy, P e) → (∀ item ∈ s.orderBy, P item.1) → Q s)

include column ident value integer binary isNull and or not existsIn subquery jsonObject
  jsonGroupArray json select

/-- A property of statements holds if every statement has it whose expressions and source have
theirs, and every kind of expression keeps the property of expressions. -/
@[elab_as_elim]
theorem Select.induction (s : Select) : Q s := by
  refine @Select.rec P (fun source => ∀ inner, source = .subquery inner → Q inner) Q
    (fun es => ∀ e ∈ es, P e) (fun entries => ∀ entry ∈ entries, P entry.2)
    (fun items => ∀ item ∈ items, P item.1)
    (fun source => ∀ inner, source = some (.subquery inner) → Q inner)
    (fun filter => ∀ e, filter = some e → P e) (fun items => ∀ item ∈ items, P item.1)
    (fun entry => P entry.2) (fun item => P item.1) (fun item => P item.1)
    column ident value integer binary isNull and or not existsIn subquery jsonObject
    jsonGroupArray json ?table ?inner ?clauses (List.forall_mem_nil _) ?_ (List.forall_mem_nil _)
    ?_ (List.forall_mem_nil _) ?_ ?noSource ?source ?noFilter ?filter (List.forall_mem_nil _) ?_
    (fun _ _ h => h) (fun _ _ h => h) (fun _ _ h => h) s
  case table =>
    intro name label inner h
    cases h
  case inner =>
    intro inner hinner inner' h
    cases h
    exact hinner
  case clauses =>
    intro projection source joins filter groupBy orderBy limit
    exact select ⟨projection, source, joins, filter, groupBy, orderBy, limit⟩
  case noSource =>
    intro inner h
    cases h
  case source =>
    intro source hsource inner h
    exact hsource inner (Option.some.inj h)
  case noFilter =>
    intro e h
    cases h
  case filter =>
    intro e he e' h
    cases h
    exact he
  all_goals exact fun _ _ hfirst hrest => List.forall_mem_cons.mpr ⟨hfirst, hrest⟩

end Induction

/-! ## Printed lists -/

/-- The pieces of items with a separator between them. -/
def separated {α : Type} (separator : String) (item : α → List Piece) : List α → List Piece
  | [] => []
  | x :: xs => item x ++ xs.flatMap fun y => .word separator :: item y

/-- A clause that is a word before a list of items, and nothing if there are none. -/
def listClause {α : Type} (word : String) (item : α → List Piece) : List α → List Piece
  | [] => []
  | x :: xs => .word word :: separated ", " item (x :: xs)

/-- A key of a JSON object with its value. -/
def entryPieces (entry : String × Expr) : List Piece :=
  [.literal entry.1, .word ", "] ++ entry.2.pieces

/-- A projected expression. -/
def itemPieces (item : Expr × Option String) : List Piece := item.1.pieces ++ labelPieces item.2

/-- A criterion of an ordering. -/
def criterionPieces (item : Expr × Direction) : List Piece :=
  item.1.pieces ++ [directionPiece item.2]

theorem Expr.combined_nil (word : String) : Expr.combined word [] = [.word "1"] := by
  rw [Expr.combined]

theorem Expr.following_eq (separator : String) (es : List Expr) :
    Expr.following separator es = es.flatMap fun e => .word separator :: e.pieces := by
  induction es with
  | nil => rw [Expr.following, List.flatMap_nil]
  | cons e es ih => rw [Expr.following, ih, List.flatMap_cons, List.cons_append]

theorem Expr.combined_cons (word : String) (e : Expr) (es : List Expr) :
    Expr.combined word (e :: es) =
      [.word "("] ++ separated word Expr.pieces (e :: es) ++ [.word ")"] := by
  rw [Expr.combined, Expr.following_eq, separated]
  simp only [List.append_assoc]

theorem Expr.entries_eq (entries : List (String × Expr)) :
    Expr.entries entries = separated ", " entryPieces entries := by
  cases entries with
  | nil => rw [Expr.entries, separated]
  | cons entry rest =>
    have hrest : Expr.followingEntries rest = rest.flatMap (.word ", " :: entryPieces ·) := by
      induction rest with
      | nil => rw [Expr.followingEntries, List.flatMap_nil]
      | cons next rest ih => rw [Expr.followingEntries, ih, List.flatMap_cons]; rfl
    rw [Expr.entries, hrest, separated, entryPieces]

theorem Select.projected_eq (items : List (Expr × Option String)) :
    Select.projected items = separated ", " itemPieces items := by
  cases items with
  | nil => rw [Select.projected, separated]
  | cons item rest =>
    have hrest : Select.followingProjected rest = rest.flatMap (.word ", " :: itemPieces ·) := by
      induction rest with
      | nil => rw [Select.followingProjected, List.flatMap_nil]
      | cons next rest ih => rw [Select.followingProjected, ih, List.flatMap_cons]; rfl
    rw [Select.projected, hrest, separated, itemPieces]

theorem Select.groupPieces_eq (es : List Expr) :
    Select.groupPieces es = listClause " GROUP BY " Expr.pieces es := by
  cases es with
  | nil => rw [Select.groupPieces, listClause]
  | cons e es => rw [Select.groupPieces, Expr.following_eq, listClause, separated]

theorem Select.orderPieces_eq (items : List (Expr × Direction)) :
    Select.orderPieces items = listClause " ORDER BY " criterionPieces items := by
  cases items with
  | nil => rw [Select.orderPieces, listClause]
  | cons item rest =>
    have hrest : Select.followingOrders rest = rest.flatMap (.word ", " :: criterionPieces ·) := by
      induction rest with
      | nil => rw [Select.followingOrders, List.flatMap_nil]
      | cons next rest ih => rw [Select.followingOrders, ih, List.flatMap_cons]; rfl
    rw [Select.orderPieces, hrest, listClause, separated, criterionPieces]
    rfl

theorem Select.pieces_eq (s : Select) :
    s.pieces = [.word "SELECT "] ++ separated ", " itemPieces s.projection ++
      Select.sourcePieces s.source ++ s.joins.flatMap Join.pieces ++
      Select.filterPieces s.filter ++ listClause " GROUP BY " Expr.pieces s.groupBy ++
      listClause " ORDER BY " criterionPieces s.orderBy ++ Limit.piecesOf? s.limit := by
  cases s
  rw [Select.pieces, Select.projected_eq, Select.groupPieces_eq, Select.orderPieces_eq]

/-! ## Harmless words -/

/-- The characters that no fixed word has: quotes, the end of a statement, and the start of a
comment. -/
def forbidden : List Char := [stringQuote, identifierQuote, ';', '/']

/-- A text that can stand outside of quotes: it has no forbidden character and no two dashes in a
row, and it does not end in a dash, so that this is still so after more text. -/
structure Harmless (cs : List Char) : Prop where
  allowed : ∀ c ∈ cs, c ∉ forbidden
  dashes : cs.IsChain fun c d => ¬(c = '-' ∧ d = '-')
  last : cs.getLast? ≠ some '-'

instance (cs : List Char) : Decidable (Harmless cs) :=
  -- only the characters of the text are looked at, not all characters
  have : Decidable (∀ c ∈ cs, c ∉ forbidden) := List.decidableBAll _ _
  decidable_of_iff ((∀ c ∈ cs, c ∉ forbidden) ∧ (cs.IsChain fun c d => ¬(c = '-' ∧ d = '-')) ∧
    cs.getLast? ≠ some '-') ⟨fun ⟨h, h', h''⟩ => ⟨h, h', h''⟩, fun h => ⟨h.1, h.2, h.3⟩⟩

theorem Harmless.append {cs ds : List Char} (hcs : Harmless cs) (hds : Harmless ds) :
    Harmless (cs ++ ds) where
  allowed := List.forall_mem_append.mpr ⟨hcs.allowed, hds.allowed⟩
  dashes := by
    refine List.isChain_append.mpr ⟨hcs.dashes, hds.dashes, ?_⟩
    rintro c hc d - ⟨rfl, -⟩
    exact hcs.last hc
  last := by
    rw [List.getLast?_append]
    cases h : ds.getLast? with
    | none => exact hcs.last
    | some d => exact fun hd => hds.last (h.trans hd)

/-- A text that can stand for a fixed word: it is harmless and has no placeholder. -/
def IsFixed (cs : List Char) : Prop := Harmless cs ∧ '?' ∉ cs

instance (cs : List Char) : Decidable (IsFixed cs) := inferInstanceAs (Decidable (_ ∧ _))

theorem isFixed_digitsOf (n : Nat) : IsFixed (digitsOf n) := by
  have hother : ∀ d, ¬d.isDigit → d ∉ digitsOf n := fun d hd h => hd (isDigit_of_mem_digitsOf h)
  have hdash : '-' ∉ digitsOf n := hother '-' (by decide)
  refine ⟨⟨?_, ?_, ?_⟩, hother '?' (by decide)⟩
  · intro c hc hforbidden
    have hnone : ∀ d ∈ forbidden, !d.isDigit := List.all_eq_true.mp (by decide)
    have hdigit := hnone c hforbidden
    rw [isDigit_of_mem_digitsOf hc] at hdigit
    exact absurd hdigit (by decide)
  · refine (List.pairwise_of_forall_mem_list ?_).isChain
    rintro c hc d - ⟨rfl, -⟩
    exact hdash hc
  · exact fun h => hdash (List.mem_of_getLast? h)

theorem isFixed_integerText (n : Int) : IsFixed (integerText n) := by
  obtain ⟨⟨hallowed, hdashes, hlast⟩, hmark⟩ := isFixed_digitsOf n.natAbs
  rw [integerText]
  split
  · -- a dash is always the sign of a number, so a digit comes after it
    refine ⟨⟨?_, ?_, ?_⟩, ?_⟩
    · exact List.forall_mem_cons.mpr ⟨by decide, hallowed⟩
    · refine List.isChain_cons.mpr ⟨?_, hdashes⟩
      rintro d hd ⟨-, rfl⟩
      exact absurd (isDigit_of_mem_digitsOf (List.mem_of_mem_head? hd)) (by decide)
    · rw [List.getLast?_cons]
      cases h : (digitsOf n.natAbs).getLast? with
      | none => exact absurd (List.getLast?_eq_none_iff.mp h) Nat.toDigits_ne_nil
      | some d => exact fun hd => hlast (h.trans hd)
    · exact List.not_mem_cons_of_ne_of_not_mem (by decide) hmark
  · exact ⟨⟨hallowed, hdashes, hlast⟩, hmark⟩

theorem isFixed_operator (op : Operator) : IsFixed op.sql.toList := by
  cases op <;> decide

namespace Piece

/-- A piece whose text outside of quotes is fixed. -/
def Harmless : Piece → Prop
  | .word w => IsFixed w.toList
  | _ => True

instance (p : Piece) : Decidable p.Harmless :=
  match p with
  | .word w => inferInstanceAs (Decidable (IsFixed w.toList))
  | .identifier _ | .literal _ | .argument _ => isTrue trivial

@[simp] theorem identifier_harmless (name : String) : (identifier name).Harmless := trivial

@[simp] theorem literal_harmless (name : String) : (literal name).Harmless := trivial

@[simp] theorem argument_harmless (v : Value) : (argument v).Harmless := trivial

end Piece

theorem numberPiece_harmless (n : Int) : (numberPiece n).Harmless := by
  rw [numberPiece, Piece.Harmless, String.toList_ofList]
  exact isFixed_integerText n

/-- All pieces are harmless. -/
def AllHarmless (ps : List Piece) : Prop := ∀ p ∈ ps, p.Harmless

@[simp] theorem allHarmless_nil : AllHarmless [] := List.forall_mem_nil _

@[simp] theorem allHarmless_cons {p : Piece} {ps : List Piece} :
    AllHarmless (p :: ps) ↔ p.Harmless ∧ AllHarmless ps := List.forall_mem_cons

@[simp] theorem allHarmless_append {ps qs : List Piece} :
    AllHarmless (ps ++ qs) ↔ AllHarmless ps ∧ AllHarmless qs := List.forall_mem_append

theorem allHarmless_flatMap {α : Type} {xs : List α} {f : α → List Piece}
    (h : ∀ x ∈ xs, AllHarmless (f x)) : AllHarmless (xs.flatMap f) := by
  intro p hp
  obtain ⟨x, hx, hp⟩ := List.mem_flatMap.mp hp
  exact h x hx p hp

theorem Column.allHarmless (c : Column) : AllHarmless c.pieces := by
  simp +decide [Column.pieces]

theorem Join.allHarmless (j : Join) : AllHarmless j.pieces := by
  simp +decide [Join.pieces, Column.allHarmless]

theorem labelPieces_allHarmless (label : Option String) : AllHarmless (labelPieces label) := by
  cases label <;> simp +decide [labelPieces]

theorem Limit.allHarmless (limit : Option Limit) : AllHarmless (Limit.piecesOf? limit) := by
  rcases limit with _ | ⟨count, _ | offset⟩ <;>
    simp +decide [Limit.piecesOf?, Limit.pieces, numberPiece_harmless]

theorem directionPiece_harmless (d : Direction) : (directionPiece d).Harmless := by
  cases d <;> decide

theorem allHarmless_separated {α : Type} {separator : String} {item : α → List Piece} {xs : List α}
    (hword : (Piece.word separator).Harmless) (h : ∀ x ∈ xs, AllHarmless (item x)) :
    AllHarmless (separated separator item xs) := by
  cases xs with
  | nil => exact allHarmless_nil
  | cons x xs =>
    obtain ⟨hx, hxs⟩ := List.forall_mem_cons.mp h
    refine allHarmless_append.mpr ⟨hx, allHarmless_flatMap fun y hy => ?_⟩
    exact allHarmless_cons.mpr ⟨hword, hxs y hy⟩

theorem allHarmless_listClause {α : Type} {word : String} {item : α → List Piece} {xs : List α}
    (hword : (Piece.word word).Harmless) (h : ∀ x ∈ xs, AllHarmless (item x)) :
    AllHarmless (listClause word item xs) := by
  cases xs with
  | nil => exact allHarmless_nil
  | cons x xs => exact allHarmless_cons.mpr ⟨hword, allHarmless_separated (by decide) h⟩

theorem Expr.combined_allHarmless {word : String} (hword : (Piece.word word).Harmless)
    {es : List Expr} (h : ∀ e ∈ es, AllHarmless e.pieces) :
    AllHarmless (Expr.combined word es) := by
  cases es with
  | nil => simp +decide [Expr.combined_nil]
  | cons e es => simp +decide [Expr.combined_cons, allHarmless_separated hword h]

/-- The pieces of every statement are harmless. -/
theorem Select.allHarmless (s : Select) : AllHarmless s.pieces := by
  induction s using Select.induction (P := fun e => AllHarmless e.pieces) with
  | column c => simp [Expr.pieces, Column.allHarmless]
  | ident name => simp [Expr.pieces]
  | value v => simp [Expr.pieces]
  | integer n => simp [Expr.pieces, numberPiece_harmless]
  | binary op lhs rhs hlhs hrhs =>
    have hop : (Piece.word op.sql).Harmless := isFixed_operator op
    simp +decide [Expr.pieces, hlhs, hrhs, hop]
  | isNull e he => simp +decide [Expr.pieces, he]
  | and es hes =>
    rw [Expr.pieces]
    exact Expr.combined_allHarmless (by decide) hes
  | or es hes =>
    rw [Expr.pieces]
    exact Expr.combined_allHarmless (by decide) hes
  | not e he => simp +decide [Expr.pieces, he]
  | existsIn s hs => simp +decide [Expr.pieces, hs]
  | subquery s hs => simp +decide [Expr.pieces, hs]
  | jsonObject entries hentries =>
    have hentry : ∀ entry ∈ entries, AllHarmless (entryPieces entry) := fun entry he => by
      simp +decide [entryPieces, hentries entry he]
    simp +decide [Expr.pieces, Expr.entries_eq, allHarmless_separated _ hentry]
  | jsonGroupArray e he => simp +decide [Expr.pieces, he]
  | json e he => simp +decide [Expr.pieces, he]
  | select s hprojection hsource hfilter hgroup horder =>
    have hitem : ∀ item ∈ s.projection, AllHarmless (itemPieces item) := fun item hi => by
      simp [itemPieces, hprojection item hi, labelPieces_allHarmless]
    have hfrom : AllHarmless (Select.sourcePieces s.source) := by
      rcases h : s.source with _ | ⟨name, label⟩ | inner
      · simp [Select.sourcePieces]
      · simp +decide [Select.sourcePieces]
      · simp +decide [Select.sourcePieces, hsource inner h]
    have hjoins : AllHarmless (s.joins.flatMap Join.pieces) :=
      allHarmless_flatMap fun j _ => j.allHarmless
    have hwhere : AllHarmless (Select.filterPieces s.filter) := by
      rcases h : s.filter with _ | e
      · simp [Select.filterPieces]
      · simp +decide [Select.filterPieces, hfilter e h]
    have hcriterion : ∀ item ∈ s.orderBy, AllHarmless (criterionPieces item) := fun item hi => by
      simp [criterionPieces, horder item hi, directionPiece_harmless]
    rw [Select.pieces_eq]
    simp +decide [allHarmless_separated _ hitem, hfrom, hjoins, hwhere,
      allHarmless_listClause _ hgroup, allHarmless_listClause _ hcriterion, Limit.allHarmless]

/-! ## Scanning printed pieces -/

/-- The text of pieces. -/
def render (ps : List Piece) : List Char := ps.flatMap Piece.text

@[simp] theorem render_nil : render [] = [] := rfl

@[simp] theorem render_cons (p : Piece) (ps : List Piece) :
    render (p :: ps) = p.text ++ render ps := rfl

@[simp] theorem render_append (ps qs : List Piece) : render (ps ++ qs) = render ps ++ render qs :=
  List.flatMap_append

theorem Select.toList_text (s : Select) : s.text.toList = render s.pieces := String.toList_ofList

/-- What a piece puts outside of quotes. -/
def Piece.outside : Piece → List Char
  | .word w => w.toList
  | .identifier _ => []
  | .literal _ => []
  | .argument _ => ['?']

theorem Piece.scan {p : Piece} (h : p.Harmless) :
    Span.after none p.text = none ∧ unquotedFrom none p.text = p.outside := by
  cases p with
  | word w =>
    refine unquotedFrom_of_no_quotes fun c hc => ?_
    have hallowed := h.1.allowed c hc
    simp only [forbidden, List.mem_cons, not_or] at hallowed
    exact ⟨hallowed.1, hallowed.2.1⟩
  | identifier name => exact ⟨after_quoted (.inr rfl) name, unquotedFrom_quoted (.inr rfl) name⟩
  | literal name => exact ⟨after_quoted (.inl rfl) name, unquotedFrom_quoted (.inl rfl) name⟩
  | argument v => exact ⟨rfl, rfl⟩

/-- After harmless pieces a scanner is outside of quotes. -/
theorem after_render {ps : List Piece} (h : AllHarmless ps) :
    Span.after none (render ps) = none := by
  induction ps with
  | nil => rfl
  | cons p ps ih =>
    obtain ⟨hp, hps⟩ := allHarmless_cons.mp h
    rw [render_cons, Span.after_append, (Piece.scan hp).1, ih hps]

/-- Outside of quotes a scanner of harmless pieces sees what each puts there. -/
theorem unquotedFrom_render {ps : List Piece} (h : AllHarmless ps) :
    unquotedFrom none (render ps) = ps.flatMap Piece.outside := by
  induction ps with
  | nil => rfl
  | cons p ps ih =>
    obtain ⟨hp, hps⟩ := allHarmless_cons.mp h
    rw [render_cons, unquotedFrom_append, (Piece.scan hp).1, (Piece.scan hp).2, ih hps,
      List.flatMap_cons]

end CollectionSql.Sql
