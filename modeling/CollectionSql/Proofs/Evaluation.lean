import Mathlib.Data.List.Sort
import CollectionSql.Proofs.Results
import CollectionSql.Sql.Basic

/-!
# What SQL statements return

The meaning of the SQL that compilation makes, over a database of rows. It is the usual one: labels
are scoped lexically, a sub-select sees the rows of the SELECTs around it, conditions have three
truth values, and an ordering is stable. What differs between databases, the comparison and the
ordering of values, is a parameter (`Dialect`).

JSON functions build and take JSON. A sub-select hands a JSON value on as its text, and the function
`JSON` makes it JSON again; without that a text goes into an object as a string.

Results:
* `Frame.sort_spec`: an ordering is a sort, and a stable one.
* `Expr.eval`, `Select.eval`: what expressions and SELECTs return, or nothing if they mean nothing.
* `Select.eval_table`: a SELECT from one table filters, orders, cuts and projects its rows.
-/

namespace CollectionSql.Sql

/-! ## Truth values -/

/-- The truth values of conditions. -/
inductive Truth where
  | yes
  | no
  | unknown
deriving DecidableEq, Repr

namespace Truth

/-- The truth value of something that is known. -/
def ofBool (b : Bool) : Truth := if b then .yes else .no

/-- Negation. What is unknown stays unknown. -/
def not : Truth → Truth
  | .yes => .no
  | .no => .yes
  | .unknown => .unknown

/-- Conjunction. That of nothing is true. -/
def all (ts : List Truth) : Truth :=
  if .no ∈ ts then .no else if .unknown ∈ ts then .unknown else .yes

/-- Disjunction. That of nothing is true as well. -/
def any (ts : List Truth) : Truth :=
  if ts = [] ∨ .yes ∈ ts then .yes else if .unknown ∈ ts then .unknown else .no

/-- A truth value as SQL has it: a number, or null if it is unknown. -/
def toValue : Truth → Value
  | .yes => .int 1
  | .no => .int 0
  | .unknown => .null

theorem all_eq_yes_iff {ts : List Truth} : all ts = .yes ↔ ∀ t ∈ ts, t = .yes := by
  unfold all
  constructor
  · intro h t ht
    by_cases hno : Truth.no ∈ ts
    · simp [hno] at h
    · by_cases hunknown : Truth.unknown ∈ ts
      · simp [hno, hunknown] at h
      · cases t with
        | yes => rfl
        | no => exact absurd ht hno
        | unknown => exact absurd ht hunknown
  · intro h
    have hno : Truth.no ∉ ts := fun ht => Truth.noConfusion (h _ ht)
    have hunknown : Truth.unknown ∉ ts := fun ht => Truth.noConfusion (h _ ht)
    rw [if_neg hno, if_neg hunknown]

end Truth

/-! ## Databases -/

/-- A row: the value of each column. -/
abbrev TableRow := String → Value

/-- The rows of each table, in order. -/
abbrev Database := String → List TableRow

/-- What a database decides about values: which comparisons hold of two values that are not null,
and which of two values comes first. -/
structure Dialect where
  holds : Operator → Value → Value → Bool
  le : Value → Value → Bool
  le_total : ∀ a b, le a b || le b a
  le_trans : ∀ a b c, le a b → le b c → le a c

namespace Dialect

/-- The truth value of a comparison, which is unknown if a side is null. -/
def compare (d : Dialect) (op : Operator) (a b : Value) : Truth :=
  if a.isNull || b.isNull then .unknown else .ofBool (d.holds op a b)

/-- Whether a value may come before another in a direction. -/
def before (d : Dialect) : Direction → Value → Value → Bool
  | .asc, a, b => d.le a b
  | .desc, a, b => d.le b a

/-- Whether a row may come before another: by the first criterion that tells them apart. -/
def beforeAll (d : Dialect) : List Direction → List Value → List Value → Bool
  | [], _, _ => true
  | _ :: _, [], _ => true
  | _ :: _, _ :: _, [] => false
  | direction :: directions, a :: as, b :: bs =>
    d.before direction a b && (!d.before direction b a || d.beforeAll directions as bs)

end Dialect

/-- The rows that a limit leaves. -/
def Limit.window {α : Type} : Option Limit → List α → List α
  | none, rows => rows
  | some l, rows => (rows.drop (l.offset.getD 0)).take l.count

/-! ## Data -/

/-- What an expression returns: a scalar, JSON as JSON functions make it, or the text of JSON. -/
inductive Datum where
  | scalar (value : Value)
  | json (value : Json)
  | text (value : Json)
deriving DecidableEq

namespace Datum

/-- A truth value as a datum. -/
def ofTruth (t : Truth) : Datum := .scalar t.toValue

/-- The value of a datum in a comparison. -/
def value : Datum → Value
  | .scalar v => v
  | .json j => .string j.compact
  | .text j => .string j.compact

/-- The truth value of a datum that is a condition. -/
def truth? (d : Datum) : Option Truth :=
  match d.value with
  | .null => some .unknown
  | .bool b => some (.ofBool b)
  | .int n => some (.ofBool (n ≠ 0))
  | _ => none

/-- What a datum becomes inside an array or an object. -/
def toJson : Datum → Json
  | .scalar v => v.toJson
  | .json j => j
  | .text j => .string j.compact

/-- What the function `JSON` makes of a datum. Only null and the texts of JSON are looked at. -/
def asJson? : Datum → Option Datum
  | .scalar .null => some (.scalar .null)
  | .scalar _ => none
  | .json j => some (.json j)
  | .text j => some (.json j)

/-- What a SELECT hands on. -/
def handedOn : Datum → Datum
  | .json j => .text j
  | d => d

@[simp] theorem truth?_ofTruth (t : Truth) : (ofTruth t).truth? = some t := by
  cases t <;> rfl

end Datum

/-! ## Rows in scope -/

/-- What one row of a SELECT binds: rows of tables under labels, and the columns of a sub-select. -/
structure Frame where
  tables : Dict TableRow
  columns : Dict Datum

namespace Frame

/-- The row that the nearest SELECT has under a label. -/
def row? : List Frame → String → Option TableRow
  | [], _ => none
  | f :: outer, label => (f.tables.get? label).or (row? outer label)

/-- The value that the nearest SELECT has under a name without a qualification. -/
def column? : List Frame → String → Option Datum
  | [], _ => none
  | f :: outer, name => (f.columns.get? name).or (column? outer name)

/-- A row of a single table. -/
def ofRow (label : String) (row : TableRow) : Frame := ⟨[(label, row)], []⟩

/-- A row of a sub-select. -/
def ofTuple (tuple : List (Option String × Datum)) : Frame :=
  ⟨[], tuple.filterMap fun item => item.1.map fun name => (name, item.2)⟩

/-- What is in scope over a group of rows: bare columns are those of its first row. -/
def seen (group outer : List Frame) : List Frame := group.head?.toList ++ outer

/-- The value of a qualified column. -/
def value? (frames : List Frame) (c : Column) : Option Value :=
  (row? frames c.table).map fun row => row c.column

/-- The rows for which a condition is true. -/
def keep (test : Frame → Option Truth) : List Frame → Option (List Frame)
  | [] => some []
  | f :: rest => do
    let t ← test f
    let kept ← keep test rest
    return if t = .yes then f :: kept else kept

/-- Every row with every row of a joined table for which the join condition is true. -/
def join (d : Dialect) (db : Database) (outer : List Frame) (j : Join) (frames : List Frame) :
    Option (List Frame) :=
  keep (fun f => do
    let a ← value? (f :: outer) j.lhs
    let b ← value? (f :: outer) j.rhs
    return d.compare .eq a b)
    (frames.flatMap fun f => (db j.table).map fun row => ⟨f.tables ++ [(j.label, row)], f.columns⟩)

/-- The rows in groups, one for each list of keys, in the order of first appearance. -/
def groups (keyed : List (List Value × Frame)) : List (List Frame) :=
  (keyed.map Prod.fst).eraseDups.map fun key =>
    (keyed.filter fun row => row.1 = key).map Prod.snd

/-- The groups that a SELECT projects: by their keys, or else each row by itself, unless all rows
are folded into one. -/
def grouping (plain aggregate : Bool) (keys : Frame → Option (List Value)) (rows : List Frame) :
    Option (List (List Frame)) :=
  if plain then some (if aggregate then [rows] else rows.map fun f => [f])
  else do
    let keyed ← rows.mapM fun f => do return (← keys f, f)
    return groups keyed

/-- The groups in order. Those that no criterion tells apart stay as they were. -/
def sort (d : Dialect) (directions : List Direction) (keys : List Frame → Option (List Value))
    (groups : List (List Frame)) : Option (List (List Frame)) := do
  let keyed ← groups.mapM fun g => do return (← keys g, g)
  return (keyed.insertionSort fun a b => d.beforeAll directions a.1 b.1).map Prod.snd

end Frame

/-! ## Orderings -/

mutual

/-- Whether an expression folds many rows into one. -/
def Expr.isAggregate : Expr → Bool
  | .column _ => false
  | .ident _ => false
  | .value _ => false
  | .integer _ => false
  | .binary _ lhs rhs => lhs.isAggregate || rhs.isAggregate
  | .isNull operand => operand.isAggregate
  | .and operands => Expr.anyAggregate operands
  | .or operands => Expr.anyAggregate operands
  | .not operand => operand.isAggregate
  | .existsIn _ => false
  | .subquery _ => false
  | .jsonObject entries => Expr.anyAggregateEntry entries
  | .jsonGroupArray _ => true
  | .json operand => operand.isAggregate

/-- Whether an expression of a list folds many rows into one. -/
def Expr.anyAggregate : List Expr → Bool
  | [] => false
  | e :: es => e.isAggregate || Expr.anyAggregate es

/-- Whether a value of a JSON object folds many rows into one. -/
def Expr.anyAggregateEntry : List (String × Expr) → Bool
  | [] => false
  | (_, e) :: rest => e.isAggregate || Expr.anyAggregateEntry rest

end

/-- A row of a result: its columns, with the labels that they have. -/
abbrev Tuple := List (Option String × Datum)

section

variable (d : Dialect) (db : Database)

mutual

/-- What an expression returns over a group of rows, inside the rows around it. -/
def Expr.eval : Expr → List Frame → List Frame → Option Datum
  | .column c, group, outer => do return .scalar (← Frame.value? (Frame.seen group outer) c)
  | .ident name, group, outer => Frame.column? (Frame.seen group outer) name
  | .value v, _, _ => some (.scalar v)
  | .integer n, _, _ => some (.scalar (.int n))
  | .binary op lhs rhs, group, outer => do
    let a ← lhs.eval group outer
    let b ← rhs.eval group outer
    return .ofTruth (d.compare op a.value b.value)
  | .isNull operand, group, outer => do
    let a ← operand.eval group outer
    return .ofTruth (.ofBool a.value.isNull)
  | .and operands, group, outer => do
    return .ofTruth (.all (← Expr.evalTruths operands group outer))
  | .or operands, group, outer => do
    return .ofTruth (.any (← Expr.evalTruths operands group outer))
  | .not operand, group, outer => do
    let a ← operand.eval group outer
    return .ofTruth (← a.truth?).not
  | .existsIn select, group, outer => do
    let rows ← select.eval (Frame.seen group outer)
    return .ofTruth (.ofBool (!rows.isEmpty))
  | .subquery select, group, outer => do
    -- the column of the first row, or null if there is no row
    match ← select.eval (Frame.seen group outer) with
    | [] => some (.scalar .null)
    | [(_, a)] :: _ => some a
    | _ => none
  | .jsonObject entries, group, outer => do
    return .json (.object (← Expr.evalEntries entries group outer))
  | .jsonGroupArray operand, group, outer => do
    let items ← group.mapM fun f => operand.eval [f] outer
    return .json (.array (items.map Datum.toJson))
  | .json operand, group, outer => do
    let a ← operand.eval group outer
    a.asJson?

/-- The truth values of a list of conditions. -/
def Expr.evalTruths : List Expr → List Frame → List Frame → Option (List Truth)
  | [], _, _ => some []
  | e :: es, group, outer => do
    let a ← e.eval group outer
    let t ← a.truth?
    let ts ← Expr.evalTruths es group outer
    return t :: ts

/-- The members of a JSON object. -/
def Expr.evalEntries :
    List (String × Expr) → List Frame → List Frame → Option (List (String × Json))
  | [], _, _ => some []
  | (name, e) :: rest, group, outer => do
    let a ← e.eval group outer
    let members ← Expr.evalEntries rest group outer
    return (name, a.toJson) :: members

/-- The rows that a SELECT returns, inside the rows around it: those of its source, joined,
filtered, grouped, ordered, cut and projected. -/
def Select.eval : Select → List Frame → Option (List Tuple)
  | ⟨projection, source, joins, filter, groupBy, orderBy, limit⟩, outer => do
    let sourced ← Select.evalSource source outer
    let joined ← joins.foldlM (fun frames j => Frame.join d db outer j frames) sourced
    let kept ← Frame.keep (fun f => Select.evalFilter filter [f] outer) joined
    let groups ← Frame.grouping groupBy.isEmpty (projection.any fun item => item.1.isAggregate)
      (fun f => Select.evalKeys groupBy [f] outer) kept
    let ordered ← Frame.sort d (orderBy.map Prod.snd)
      (fun g => Select.evalOrders orderBy g outer) groups
    (Limit.window limit ordered).mapM fun g => Select.evalProjection projection g outer

/-- The rows of a source clause. Without one there is a single row that binds nothing. -/
def Select.evalSource : Option Source → List Frame → Option (List Frame)
  | none, _ => some [⟨[], []⟩]
  | some (.table name label), _ => some ((db name).map (Frame.ofRow label))
  | some (.subquery select), outer => do
    let rows ← select.eval outer
    return rows.map Frame.ofTuple

/-- The truth value of a filter. -/
def Select.evalFilter : Option Expr → List Frame → List Frame → Option Truth
  | none, _, _ => some .yes
  | some e, group, outer => do
    let a ← e.eval group outer
    a.truth?

/-- The values of grouping keys. -/
def Select.evalKeys : List Expr → List Frame → List Frame → Option (List Value)
  | [], _, _ => some []
  | e :: es, group, outer => do
    let a ← e.eval group outer
    let values ← Select.evalKeys es group outer
    return a.value :: values

/-- The values that rows are ordered by. -/
def Select.evalOrders : List (Expr × Direction) → List Frame → List Frame → Option (List Value)
  | [], _, _ => some []
  | (e, _) :: rest, group, outer => do
    let a ← e.eval group outer
    let values ← Select.evalOrders rest group outer
    return a.value :: values

/-- The columns of a result. -/
def Select.evalProjection :
    List (Expr × Option String) → List Frame → List Frame → Option Tuple
  | [], _, _ => some []
  | (e, label) :: rest, group, outer => do
    let a ← e.eval group outer
    let items ← Select.evalProjection rest group outer
    return (label, a.handedOn) :: items

end

end

/-! ## Rows under labels -/

@[simp] theorem Frame.seen_singleton (f : Frame) (outer : List Frame) :
    Frame.seen [f] outer = f :: outer := rfl

theorem Frame.row?_ofRow_self (label : String) (row : TableRow) (outer : List Frame) :
    Frame.row? (.ofRow label row :: outer) label = some row := by
  simp [Frame.row?, Frame.ofRow, Dict.get?]

theorem Frame.row?_ofRow_of_ne {label other : String} (h : label ≠ other) (row : TableRow)
    (outer : List Frame) :
    Frame.row? (.ofRow label row :: outer) other = Frame.row? outer other := by
  simp [Frame.row?, Frame.ofRow, Dict.get?, h]

theorem Expr.eval_col {d : Dialect} {db : Database} {group outer : List Frame} {label : String}
    {row : TableRow} (h : Frame.row? (Frame.seen group outer) label = some row) (column : String) :
    (Expr.col label column).eval d db group outer = some (.scalar (row column)) := by
  rw [Expr.col, Expr.eval, Frame.value?, h]
  rfl

/-! ## Filters -/

theorem Expr.evalTruths_append {d : Dialect} {db : Database} {group outer : List Frame}
    {es es' : List Expr} {ts ts' : List Truth}
    (h : Expr.evalTruths d db es group outer = some ts)
    (h' : Expr.evalTruths d db es' group outer = some ts') :
    Expr.evalTruths d db (es ++ es') group outer = some (ts ++ ts') := by
  induction es generalizing ts with
  | nil =>
    rw [Expr.evalTruths, Option.some.injEq] at h
    rw [← h]
    exact h'
  | cons e es ih =>
    simp only [Expr.evalTruths, Option.bind_eq_bind, Option.bind_eq_some_iff, Option.pure_def,
      Option.some.injEq] at h
    obtain ⟨a, ha, t, ht, rest, hrest, rfl⟩ := h
    simp [Expr.evalTruths, ha, ht, ih hrest]

/-- The conjunction of conditions is true iff each of them is, however it is written. -/
theorem Select.evalFilter_andAll {d : Dialect} {db : Database} {group outer : List Frame}
    {es : List Expr} {ts : List Truth} (h : Expr.evalTruths d db es group outer = some ts) :
    ∃ t, Select.evalFilter d db (Expr.andAll es) group outer = some t ∧
      (t = .yes ↔ ∀ t' ∈ ts, t' = .yes) := by
  match es with
  | [] =>
    rw [Expr.evalTruths, Option.some.injEq] at h
    exact ⟨.yes, rfl, by simp [← h]⟩
  | [e] =>
    simp only [Expr.evalTruths, Option.bind_eq_bind, Option.bind_eq_some_iff, Option.pure_def,
      Option.some.injEq] at h
    obtain ⟨a, ha, t, ht, _, rfl, rfl⟩ := h
    refine ⟨t, ?_, by simp⟩
    rw [Expr.andAll, Select.evalFilter, ha]
    exact ht
  | e :: e' :: rest =>
    have hand : Expr.andAll (e :: e' :: rest) = some (.and (e :: e' :: rest)) := rfl
    refine ⟨.all ts, ?_, Truth.all_eq_yes_iff⟩
    rw [hand, Select.evalFilter, Expr.eval, h]
    exact Datum.truth?_ofTruth _

/-! ## SELECTs from one table -/

theorem Frame.keep_map {α : Type} (test : Frame → Option Truth) {frame : α → Frame}
    {p : α → Bool} {rows : List α}
    (h : ∀ row ∈ rows, ∃ t, test (frame row) = some t ∧ (t = .yes ↔ p row = true)) :
    Frame.keep test (rows.map frame) = some ((rows.filter p).map frame) := by
  induction rows with
  | nil => rfl
  | cons row rest ih =>
    obtain ⟨⟨t, ht, hyes⟩, hrest⟩ := List.forall_mem_cons.mp h
    rw [List.map_cons, Frame.keep, ht, ih hrest, List.filter_cons]
    by_cases hp : p row = true
    · simp [hyes.mpr hp, hp]
    · have hno : t ≠ .yes := fun h => hp (hyes.mp h)
      simp [hno, hp]

theorem Limit.window_map {α β : Type} (f : α → β) (limit : Option Limit) (rows : List α) :
    Limit.window limit (rows.map f) = (Limit.window limit rows).map f := by
  cases limit with
  | none => rfl
  | some l => simp [Limit.window, List.map_take, List.map_drop]

theorem Limit.mem_of_mem_window {α : Type} {limit : Option Limit} {rows : List α} {row : α}
    (h : row ∈ Limit.window limit rows) : row ∈ rows := by
  cases limit with
  | none => exact h
  | some l => exact List.mem_of_mem_drop (List.mem_of_mem_take h)

/-- Rows that stand for themselves are ordered by their own criteria. -/
theorem Frame.sort_singletons {α : Type} (d : Dialect) (directions : List Direction)
    (keys : List Frame → Option (List Value)) {frame : α → Frame} {key : α → List Value}
    {rows : List α} (h : ∀ row ∈ rows, keys [frame row] = some (key row)) :
    Frame.sort d directions keys (rows.map fun row => [frame row]) =
      some ((rows.insertionSort fun a b => d.beforeAll directions (key a) (key b)).map
        fun row => [frame row]) := by
  have hkeyed : (rows.map fun row => [frame row]).mapM (fun g => do return (← keys g, g)) =
      some (rows.map fun row => (key row, [frame row])) := by
    rw [List.mapM_map]
    apply mapM_eq_some_map
    intro row hrow
    simp [h row hrow]
  have hsort : (rows.map fun row => (key row, [frame row])).insertionSort
      (fun a b => d.beforeAll directions a.1 b.1) =
      (rows.insertionSort fun a b => d.beforeAll directions (key a) (key b)).map
        fun row => (key row, [frame row]) := by
    symm
    apply List.map_insertionSort
    intro a _ b _
    rfl
  rw [Frame.sort, hkeyed]
  simp only [Option.bind_eq_bind, Option.bind_some, hsort, List.map_map]
  rfl

/-- A SELECT from one table, without joins and groups, returns the projections of the rows for which
its filter is true, in its order and as many as its limit says. -/
theorem Select.eval_table {d : Dialect} {db : Database} {outer : List Frame}
    {projection : List (Expr × Option String)} {name label : String} {filter : Option Expr}
    {orderBy : List (Expr × Direction)} {limit : Option Limit} (keep : TableRow → Bool)
    (key : TableRow → List Value) (tuple : TableRow → Tuple)
    (hplain : (projection.any fun item => item.1.isAggregate) = false)
    (hfilter : ∀ row ∈ db name, ∃ t,
      Select.evalFilter d db filter [.ofRow label row] outer = some t ∧
        (t = .yes ↔ keep row = true))
    (hkey : ∀ row ∈ db name,
      Select.evalOrders d db orderBy [.ofRow label row] outer = some (key row))
    (htuple : ∀ row ∈ db name,
      Select.evalProjection d db projection [.ofRow label row] outer = some (tuple row)) :
    Select.eval d db ⟨projection, some (.table name label), [], filter, [], orderBy, limit⟩ outer =
      some ((Limit.window limit (((db name).filter keep).insertionSort
        fun a b => d.beforeAll (orderBy.map Prod.snd) (key a) (key b))).map tuple) := by
  have hkept := Frame.keep_map (fun f => Select.evalFilter d db filter [f] outer) hfilter
  have hsorted := Frame.sort_singletons d (orderBy.map Prod.snd)
    (fun g => Select.evalOrders d db orderBy g outer)
    fun row hrow => hkey row (List.mem_filter (p := keep) |>.mp hrow).1
  have hchosen : ((Limit.window limit (((db name).filter keep).insertionSort
      fun a b => d.beforeAll (orderBy.map Prod.snd) (key a) (key b))).map
        fun row => [Frame.ofRow label row]).mapM
        (fun g => Select.evalProjection d db projection g outer) =
      some ((Limit.window limit (((db name).filter keep).insertionSort
        fun a b => d.beforeAll (orderBy.map Prod.snd) (key a) (key b))).map tuple) := by
    rw [List.mapM_map]
    apply mapM_eq_some_map
    intro row hrow
    have hsource := (List.mem_insertionSort _).mp (Limit.mem_of_mem_window hrow)
    exact htuple row (List.mem_filter.mp hsource).1
  rw [Select.eval, Select.evalSource]
  simp only [Option.bind_eq_bind, Option.bind_some, List.foldlM_nil, Option.pure_def, hkept,
    Frame.grouping, List.isEmpty_nil, if_true, hplain, Bool.false_eq_true, if_false, List.map_map,
    Function.comp_def, hsorted, Limit.window_map, hchosen]

/-! ## SELECTs that return one row -/

theorem Select.keep_evalFilter_none (d : Dialect) (db : Database) (outer frames : List Frame) :
    Frame.keep (fun f => Select.evalFilter d db none [f] outer) frames = some frames := by
  simp only [Select.evalFilter]
  induction frames with
  | nil => rfl
  | cons f rest ih => simp [Frame.keep, ih]

theorem Frame.sort_singleton {d : Dialect} {directions : List Direction}
    {keys : List Frame → Option (List Value)} {group : List Frame} {key : List Value}
    (h : keys group = some key) : Frame.sort d directions keys [group] = some [group] := by
  simp [Frame.sort, h]

/-- A SELECT that folds the rows of a sub-select projects all of them at once. -/
theorem Select.eval_fold {d : Dialect} {db : Database} {outer : List Frame}
    {projection : List (Expr × Option String)} {rows : Select} {tuples : List Tuple}
    {tuple : Tuple} (hfolds : (projection.any fun item => item.1.isAggregate) = true)
    (hrows : rows.eval d db outer = some tuples)
    (htuple : Select.evalProjection d db projection (tuples.map Frame.ofTuple) outer =
      some tuple) :
    Select.eval d db ⟨projection, some (.subquery rows), [], none, [], [], none⟩ outer =
      some [tuple] := by
  have hsort : Frame.sort d [] (fun g => Select.evalOrders d db [] g outer)
      [tuples.map Frame.ofTuple] = some [tuples.map Frame.ofTuple] :=
    Frame.sort_singleton rfl
  rw [Select.eval, Select.evalSource, hrows]
  simp only [Option.bind_eq_bind, Option.bind_some, List.foldlM_nil, Option.pure_def,
    Select.keep_evalFilter_none, Frame.grouping, List.isEmpty_nil, if_true, hfolds, List.map_nil,
    hsort,
    Limit.window, List.mapM_cons, List.mapM_nil, htuple]

/-- A SELECT of a single expression returns its value. -/
theorem Select.eval_scalar {d : Dialect} {db : Database} {outer : List Frame} {e : Expr}
    {label : Option String} {a : Datum} (hplain : e.isAggregate = false)
    (h : e.eval d db [⟨[], []⟩] outer = some a) :
    (Select.scalar e label).eval d db outer = some [[(label, a.handedOn)]] := by
  have hsort : Frame.sort d [] (fun g => Select.evalOrders d db [] g outer) [[⟨[], []⟩]] =
      some [[⟨[], []⟩]] :=
    Frame.sort_singleton rfl
  rw [Select.scalar, Select.eval, Select.evalSource]
  simp only [Option.bind_eq_bind, Option.bind_some, List.foldlM_nil, Option.pure_def,
    Select.keep_evalFilter_none, Frame.grouping, List.isEmpty_nil, if_true, List.any_cons, hplain,
    List.any_nil, Bool.or_self, Bool.false_eq_true, if_false, List.map_cons, List.map_nil, hsort,
    Limit.window, List.mapM_cons, List.mapM_nil, Select.evalProjection, h]

end CollectionSql.Sql
