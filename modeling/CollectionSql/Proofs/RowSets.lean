import CollectionSql.Proofs.JsonReading
import CollectionSql.Response

/-!
# Which responses hold row sets

A response holds a row set if it has one row with one column, and the value there is a row set
document: an object that an executor has decoded, or a text. A row set document has a member `rows`,
an array of objects, and it may have a member `aggregates`, an object. Members of other names are
passed over.

**Deviation.** A text may also hold an array instead of an object. Then its two items are the
aggregates and the rows, in this order. A decoded array is refused.

What a reader of values takes is described by the value of the tree (`Reader.ReadsAs`): the reader
succeeds where there is room for the tree, and the form of what it gives is the value of the tree.

Results:
* `ReadsAs.list`, `readsAs_jsonDict`: readers that give what a tree stands for.
* `Record.reader_eq_some_iff`, `Record.optional_eq_some_iff`: what a record is read from.
* `RowSet.reader_eq_some_iff`: what a row set is read from.
* `Response.toRowSet_accepts_iff`: which responses hold which row sets, and that all others are
  errors of execution.
-/

namespace CollectionSql

namespace Json

/-! ## Readers that give what a tree stands for -/

/-- The mode leaves room for a tree. -/
def Mode.Allows : Mode → Tree → Prop
  | .direct levels, t => t.height ≤ levels
  | .buffered, _ => True

namespace Mode

variable {mode : Mode}

theorem allows_array_iff {items : List Tree} :
    mode.Allows (.array items) ↔
      ∃ inner, mode.enter = some inner ∧ ∀ t ∈ items, inner.Allows t := by
  rcases mode with (_ | levels) | _
  · simp [Allows, enter, Tree.height]
  · simp [Allows, enter, Tree.height, Tree.heightOfItems_le]
  · simp [Allows, enter]

theorem allows_object_iff {members : List (Option String × Tree)} :
    mode.Allows (.object members) ↔
      ∃ inner, mode.enter = some inner ∧ ∀ m ∈ members, inner.Allows m.2 := by
  rcases mode with (_ | levels) | _
  · simp [Allows, enter, Tree.height]
  · simp [Allows, enter, Tree.height, Tree.heightOfMembers_le]
  · simp [Allows, enter]

end Mode

/-- A reader gives what a tree stands for, wherever there is room for the tree. -/
def Reader.ReadsAs {α : Type} (value : Reader α) (form : α → Json) : Prop :=
  ∀ (mode : Mode) (t : Tree) (x : α),
    value mode t = some x ↔ mode.Allows t ∧ t.toJson? = some (form x)

namespace Reader

variable {α : Type}

theorem readsAs_json : Reader.json.ReadsAs id := by
  intro mode t j
  rw [Reader.json, id]
  cases mode with
  | buffered => simp [Mode.admits, Mode.Allows]
  | direct levels =>
    by_cases hroom : t.height ≤ levels
    · cases ht : t.toJson? <;> simp [Mode.admits, Mode.Allows, hroom, ht]
    · simp [Mode.admits, Mode.Allows, hroom]

theorem ReadsAs.items {item : Reader α} {form : α → Json} (h : item.ReadsAs form) {inner : Mode}
    {items : List Tree} {xs : List α} :
    items.mapM (item inner) = some xs ↔
      (∀ t ∈ items, inner.Allows t) ∧ Tree.itemsToJson? items = some (xs.map form) := by
  induction items generalizing xs with
  | nil => cases xs <;> simp [Tree.itemsToJson?]
  | cons t ts ih =>
    simp only [List.mapM_cons, Option.bind_eq_bind, Option.bind_eq_some_iff, Option.pure_def,
      Option.some.injEq, h inner t, ih, Tree.itemsToJson?, List.forall_mem_cons]
    constructor
    · rintro ⟨x, ⟨ht, hx⟩, rest, ⟨hts, hrest⟩, rfl⟩
      exact ⟨⟨ht, hts⟩, _, hx, _, hrest, rfl⟩
    · rintro ⟨⟨ht, hts⟩, _, hx, _, hrest, hxs⟩
      obtain ⟨x, rest, rfl, rfl, rfl⟩ := List.map_eq_cons_iff.mp hxs.symm
      exact ⟨x, ⟨ht, hx⟩, rest, ⟨hts, hrest⟩, rfl⟩

/-- An array of what a reader gives stands for the array of the forms. -/
theorem ReadsAs.list {item : Reader α} {form : α → Json} (h : item.ReadsAs form) :
    (Reader.list item).ReadsAs fun xs => .array (xs.map form) := by
  intro mode t xs
  cases t with
  | array items =>
    simp only [Reader.list, Option.bind_eq_bind, Option.bind_eq_some_iff, h.items,
      Mode.allows_array_iff, Tree.toJson?, Option.map_eq_some_iff, Json.array.injEq]
    constructor
    · rintro ⟨inner, henter, hitems, hvalue⟩
      exact ⟨⟨inner, henter, hitems⟩, _, hvalue, rfl⟩
    · rintro ⟨⟨inner, henter, hitems⟩, _, hvalue, rfl⟩
      exact ⟨inner, henter, hitems, hvalue⟩
  | _ => simp [Reader.list, Tree.toJson?]

theorem members_eq_some_iff {ms : List (Option String × Tree)} {named : Dict Tree} :
    Reader.members ms = some named ↔ ms = named.map fun m => (some m.1, m.2) := by
  induction ms generalizing named with
  | nil => cases named <;> simp [Reader.members]
  | cons m ms ih =>
    obtain ⟨k, t⟩ := m
    simp only [Reader.members, Option.bind_eq_bind, Option.bind_eq_some_iff, Option.pure_def,
      Option.some.injEq, ih]
    constructor
    · rintro ⟨key, rfl, rest, rfl, rfl⟩
      rfl
    · intro h
      obtain ⟨first, rest, rfl, hfirst, rfl⟩ := List.map_eq_cons_iff.mp h.symm
      cases hfirst
      exact ⟨_, rfl, rest, rfl, rfl⟩

theorem entries_eq_some_iff {inner : Mode} {named : Dict Tree} {entries : Dict Json} :
    named.mapM (fun m => (Reader.json inner m.2).map (m.1, ·)) = some entries ↔
      (∀ m ∈ named, inner.Allows m.2) ∧
        Tree.membersToJson? (named.map fun m => (some m.1, m.2)) = some entries := by
  induction named generalizing entries with
  | nil => simp [Tree.membersToJson?]
  | cons m named ih =>
    simp only [List.mapM_cons, Option.bind_eq_bind, Option.bind_eq_some_iff, Option.pure_def,
      Option.some.injEq, Option.map_eq_some_iff, readsAs_json inner m.2, id, ih, List.map_cons,
      Tree.membersToJson?, List.forall_mem_cons]
    constructor
    · rintro ⟨_, ⟨j, ⟨ht, hj⟩, rfl⟩, rest, ⟨hrest, hvalue⟩, rfl⟩
      exact ⟨⟨ht, hrest⟩, _, rfl, j, hj, rest, hvalue, rfl⟩
    · rintro ⟨⟨ht, hrest⟩, _, rfl, j, hj, rest, hvalue, rfl⟩
      exact ⟨_, ⟨j, ⟨ht, hj⟩, rfl⟩, rest, ⟨hrest, hvalue⟩, rfl⟩

theorem exists_named_of_membersToJson? {ms : List (Option String × Tree)} {entries : Dict Json}
    (h : Tree.membersToJson? ms = some entries) :
    ∃ named : Dict Tree, ms = named.map fun m => (some m.1, m.2) := by
  induction ms generalizing entries with
  | nil => exact ⟨[], rfl⟩
  | cons m ms ih =>
    obtain ⟨k, t⟩ := m
    simp only [Tree.membersToJson?, Option.bind_eq_bind, Option.bind_eq_some_iff] at h
    obtain ⟨key, rfl, -, -, rest, hrest, -⟩ := h
    obtain ⟨named, rfl⟩ := ih hrest
    exact ⟨(key, t) :: named, rfl⟩

/-- An object of any values stands for the object of these values. -/
theorem readsAs_jsonDict : (Reader.dict .json).ReadsAs .object := by
  intro mode t d
  cases t with
  | object ms =>
    simp only [Reader.dict, Option.bind_eq_bind, Option.bind_eq_some_iff, Option.pure_def,
      Option.some.injEq, members_eq_some_iff, entries_eq_some_iff, Mode.allows_object_iff,
      Tree.toJson?, Option.map_eq_some_iff, Json.object.injEq]
    constructor
    · rintro ⟨inner, henter, named, rfl, entries, ⟨hroom, hvalue⟩, rfl⟩
      exact ⟨⟨inner, henter, List.forall_mem_map.mpr hroom⟩, entries, hvalue, rfl⟩
    · rintro ⟨⟨inner, henter, hroom⟩, entries, hvalue, rfl⟩
      obtain ⟨named, rfl⟩ := exists_named_of_membersToJson? hvalue
      have hparts : ∀ m ∈ named, inner.Allows m.2 := fun m hm =>
        hroom _ (List.mem_map_of_mem hm)
      exact ⟨inner, henter, named, rfl, entries, ⟨hparts, hvalue⟩, rfl⟩
  | _ => simp [Reader.dict, Tree.toJson?]

end Reader

/-! ## Records -/

/-- The fields of a record that a tree gives: the known members of an object, none of them twice,
or the items of an array in the order of the names. -/
inductive Tree.Gives (names : List String) : Tree → Dict Tree → Prop
  | object {members : Dict Tree}
      (once : ((members.filter fun m => names.contains m.1).map Prod.fst).Nodup) :
      Gives names (.object (members.map fun m => (some m.1, m.2)))
        (members.filter fun m => names.contains m.1)
  | array {items : List Tree} (fits : items.length ≤ names.length) :
      Gives names (.array items) (names.zip items)

theorem Record.reader_eq_some_iff {names : List String} {mode : Mode} {t : Tree} {r : Record} :
    Record.reader names mode t = some r ↔
      mode.enter = some r.mode ∧ t.Gives names r.given := by
  rw [Record.reader, Option.bind_eq_bind, Option.bind_eq_some_iff]
  constructor
  · rintro ⟨inner, henter, hfields⟩
    cases t with
    | array items =>
      simp only [Option.ite_none_right_eq_some, Option.some.injEq] at hfields
      obtain ⟨hfits, rfl⟩ := hfields
      exact ⟨henter, .array hfits⟩
    | object ms =>
      simp only [Option.bind_eq_bind, Option.bind_eq_some_iff, Reader.members_eq_some_iff,
        Option.ite_none_right_eq_some, Option.some.injEq] at hfields
      obtain ⟨members, rfl, honce, rfl⟩ := hfields
      exact ⟨henter, .object honce⟩
    | _ => cases hfields
  · obtain ⟨inner, given⟩ := r
    rintro ⟨henter, hgives⟩
    refine ⟨inner, henter, ?_⟩
    cases hgives with
    | object honce =>
      simp only [Reader.members_eq_some_iff.mpr rfl, Option.bind_eq_bind, Option.bind_some,
        if_pos honce]
    | array hfits => exact if_pos hfits

/-- What a field of a record says that may be missing or `null`. -/
inductive Tree.Says {α : Type} (form : α → Json) (mode : Mode) : Option Tree → Option α → Prop
  | missing : Says form mode none none
  | null : Says form mode (some .null) none
  | value {t : Tree} {x : α} (room : mode.Allows t) (stands : t.toJson? = some (form x)) :
      Says form mode (some t) (some x)

theorem Record.optional_eq_some_iff {α : Type} {value : Reader α} {form : α → Json}
    (h : value.ReadsAs form) (hnull : ∀ x, form x ≠ .null) {r : Record} {name : String}
    {o : Option α} :
    r.optional name value = some o ↔ Tree.Says form r.mode (r.given.get? name) o := by
  rw [Record.optional]
  cases r.given.get? name with
  | none =>
    constructor
    · rintro ⟨⟩
      exact .missing
    · rintro ⟨⟩
      rfl
  | some t =>
    by_cases ht : t = .null
    · subst ht
      constructor
      · rintro ⟨⟩
        exact .null
      · rintro (_ | _ | ⟨-, hstands⟩)
        · rfl
        · exact absurd (Option.some.inj hstands).symm (hnull _)
    · have hoption : Reader.option value r.mode t = (value r.mode t).map some := by
        cases t <;> first | rfl | exact absurd rfl ht
      show Reader.option value r.mode t = some o ↔ _
      rw [hoption, Option.map_eq_some_iff]
      constructor
      · rintro ⟨x, hx, rfl⟩
        obtain ⟨hroom, hstands⟩ := (h _ _ _).mp hx
        exact .value hroom hstands
      · rintro (_ | _ | ⟨hroom, hstands⟩)
        · exact absurd rfl ht
        · exact ⟨_, (h _ _ _).mpr ⟨hroom, hstands⟩, rfl⟩

end Json

/-! ## Row sets -/

open Json (Reader Record Mode Tree)

namespace RowSet

/-- The form of a list of rows. -/
def rowsForm (rows : List Row) : Json := .array (rows.map .object)

/-- The names of the parts of a row set. -/
def partNames : List String := ["aggregates", "rows"]

theorem reader_eq_some_iff {mode : Mode} {t : Tree} {s : RowSet} :
    reader mode t = some s ↔ ∃ inner given, mode.enter = some inner ∧ t.Gives partNames given ∧
      Tree.Says .object inner (Dict.get? given "aggregates") s.aggregates ∧
      Tree.Says rowsForm inner (Dict.get? given "rows") s.rows := by
  have hrow : (Reader.dict .json).ReadsAs Json.object := Reader.readsAs_jsonDict
  have hrows : (Reader.list (.dict .json)).ReadsAs rowsForm := hrow.list
  simp only [reader, Option.bind_eq_bind, Option.bind_eq_some_iff, Option.pure_def,
    Option.some.injEq, Record.reader_eq_some_iff,
    Record.optional_eq_some_iff hrow fun _ => Json.noConfusion,
    Record.optional_eq_some_iff hrows fun _ => Json.noConfusion]
  constructor
  · rintro ⟨⟨inner, given⟩, ⟨henter, hgives⟩, _, haggregates, _, hrows, rfl⟩
    exact ⟨inner, given, henter, hgives, haggregates, hrows⟩
  · rintro ⟨inner, given, henter, hgives, haggregates, hrows⟩
    exact ⟨⟨inner, given⟩, ⟨henter, hgives⟩, _, haggregates, _, hrows, rfl⟩

/-- A row set document, and the row set that it holds. The mode is that of its parts. -/
inductive IsDocument (mode : Mode) : Tree → RowSet → Prop
  /-- An object with an array of objects as its `rows`. Its `aggregates` are an object, `null` or
  missing. -/
  | object {members : Dict Tree} {aggregates : Option Row} {rows : List Row}
      (once : ((members.filter fun m => partNames.contains m.1).map Prod.fst).Nodup)
      (aggregatesPart : Tree.Says .object mode (Dict.get? members "aggregates") aggregates)
      (rowsPart : Tree.Says rowsForm mode (Dict.get? members "rows") (some rows)) :
      IsDocument mode (.object (members.map fun m => (some m.1, m.2))) ⟨aggregates, some rows⟩
  /-- An array of the two parts. The first must be there, if only as `null`. -/
  | array {first second : Tree} {aggregates : Option Row} {rows : List Row}
      (aggregatesPart : Tree.Says .object mode (some first) aggregates)
      (rowsPart : Tree.Says rowsForm mode (some second) (some rows)) :
      IsDocument mode (.array [first, second]) ⟨aggregates, some rows⟩

/-- A row set with rows is read from the row set documents. -/
theorem reader_with_rows_iff {mode : Mode} {t : Tree} {s : RowSet} :
    reader mode t = some s ∧ s.rows.isSome ↔
      ∃ inner, mode.enter = some inner ∧ IsDocument inner t s := by
  rw [reader_eq_some_iff]
  obtain ⟨aggregates, rows⟩ := s
  constructor
  · rintro ⟨⟨inner, given, henter, hgives, haggregates, hrows⟩, hsome⟩
    obtain ⟨rows, rfl⟩ := Option.isSome_iff_exists.mp hsome
    refine ⟨inner, henter, ?_⟩
    cases hgives with
    | object honce =>
      rw [Dict.get?_filter _ (by decide)] at haggregates hrows
      exact .object honce haggregates hrows
    | @array items hfits =>
      -- with fewer than two items there are no rows
      rcases items with _ | ⟨first, _ | ⟨second, _ | ⟨third, rest⟩⟩⟩
      · cases hrows
      · cases hrows
      · exact .array haggregates hrows
      · simp [partNames] at hfits
  · rintro ⟨inner, henter, hdocument⟩
    cases hdocument with
    | object honce haggregates hrows =>
      refine ⟨⟨inner, _, henter, .object honce, ?_, ?_⟩, rfl⟩
      · rwa [Dict.get?_filter _ (by decide)]
      · rwa [Dict.get?_filter _ (by decide)]
    | array haggregates hrows =>
      exact ⟨⟨inner, _, henter, .array le_rfl, haggregates, hrows⟩, rfl⟩

end RowSet

/-! ## Responses -/

namespace Response

/-- A value and the row set that it holds. -/
inductive Holds : Json → RowSet → Prop
  /-- An object, which can only be a document of the first kind. No limit applies to it. -/
  | decoded {members : List (String × Json)} {s : RowSet}
      (document : RowSet.IsDocument .buffered (.ofJson (.object members)) s) :
      Holds (.object members) s
  /-- A text whose whole is a document. The document is the first of the containers that may be open
  at once, so there is room for one less in its parts. -/
  | text {text : String} {t : Tree} {s : RowSet} (parsed : Tree.parse? text = some t)
      (document : RowSet.IsDocument (.direct 126) t s) : Holds (.string text) s

theorem onlyValue_eq_ok_iff {r : Response} {value : Json} :
    r.onlyValue = .ok value ↔ ∃ column, r.rows = [[(column, value)]] := by
  obtain ⟨rows⟩ := r
  rcases rows with _ | ⟨(_ | ⟨⟨column, only⟩, _ | ⟨second, rest⟩⟩), _ | ⟨row, more⟩⟩
  all_goals simp [onlyValue]

theorem rowSetOf_with_rows_iff {value : Json} {s : RowSet} :
    rowSetOf value = .ok s ∧ s.rows.isSome ↔ Holds value s := by
  have hofOption : ∀ o : Option RowSet, rowSetOf.ofOption o = .ok s ↔ o = some s := by
    intro o
    cases o <;> simp [rowSetOf.ofOption]
  constructor
  · rintro ⟨hread, hsome⟩
    cases value with
    | string text =>
      rw [rowSetOf, hofOption, Reader.parse?, Option.bind_eq_bind, Option.bind_eq_some_iff] at hread
      obtain ⟨t, ht, hread⟩ := hread
      obtain ⟨_, ⟨⟩, hdocument⟩ := RowSet.reader_with_rows_iff.mp ⟨hread, hsome⟩
      exact .text ht hdocument
    | object members =>
      rw [rowSetOf, hofOption] at hread
      obtain ⟨_, ⟨⟩, hdocument⟩ := RowSet.reader_with_rows_iff.mp ⟨hread, hsome⟩
      exact .decoded hdocument
    | _ => cases hread
  · rintro (hdocument | ⟨ht, hdocument⟩)
    · rw [rowSetOf, hofOption]
      exact RowSet.reader_with_rows_iff.mpr ⟨.buffered, rfl, hdocument⟩
    · rw [rowSetOf, hofOption, Reader.parse?, ht]
      exact RowSet.reader_with_rows_iff.mpr ⟨.direct 126, rfl, hdocument⟩

theorem requireRows_eq_ok_iff {s s' : RowSet} :
    requireRows s = .ok s' ↔ s = s' ∧ s'.rows.isSome := by
  unfold requireRows
  by_cases hsome : s.rows.isSome = true
  · rw [if_pos hsome, Except.ok.injEq]
    constructor
    · rintro rfl
      exact ⟨rfl, hsome⟩
    · exact And.left
  · rw [if_neg hsome]
    refine ⟨nofun, ?_⟩
    rintro ⟨rfl, hrows⟩
    exact absurd hrows hsome

theorem toRowSet_eq_ok_iff {r : Response} {s : RowSet} :
    r.toRowSet = .ok s ↔ ∃ value, r.onlyValue = .ok value ∧ Holds value s := by
  simp only [← rowSetOf_with_rows_iff, toRowSet]
  cases r.onlyValue with
  | error fault => simp [bind, Except.bind, Except.mapError]
  | ok value =>
    cases hread : rowSetOf value with
    | error fault => simp [bind, Except.bind, Except.mapError, hread]
    | ok read =>
      have hrequire : requireRows read = .ok s ↔ read = s ∧ s.rows.isSome := requireRows_eq_ok_iff
      cases hrows : requireRows read <;>
        simpa [bind, Except.bind, Except.mapError, hread, hrows] using hrequire

theorem toRowSet_fails {r : Response} {e : Error} (h : r.toRowSet = .error e) :
    ∃ fault, e = .of (.invalidResult fault) := by
  unfold toRowSet at h
  cases hdecoded : (r.onlyValue >>= rowSetOf) >>= requireRows with
  | error fault =>
    rw [hdecoded] at h
    cases h
    exact ⟨fault, rfl⟩
  | ok s =>
    rw [hdecoded] at h
    cases h

/-- **Main theorem.** A response is decoded as a row set iff it has one row with one column and the
value there holds that row set. All other responses are errors of execution. -/
theorem toRowSet_accepts_iff (r : Response) :
    (∀ s, r.toRowSet = .ok s ↔
      ∃ column value, r.rows = [[(column, value)]] ∧ Holds value s) ∧
    ∀ e, r.toRowSet = .error e → e.is .execution = true := by
  constructor
  · intro s
    rw [toRowSet_eq_ok_iff]
    simp only [onlyValue_eq_ok_iff]
    constructor
    · rintro ⟨value, ⟨column, hrows⟩, hholds⟩
      exact ⟨column, value, hrows, hholds⟩
    · rintro ⟨column, value, hrows, hholds⟩
      exact ⟨value, ⟨column, hrows⟩, hholds⟩
  · intro e he
    obtain ⟨fault, rfl⟩ := toRowSet_fails he
    rfl

/-- A text that is an array, and not an object, is taken for a row set. The same array, decoded, is
refused. -/
theorem arrayText_accepted :
    (single "data" (.string "[null,[]]")).toRowSet = .ok ⟨none, some []⟩ ∧
      (∀ members, Tree.parse? "[null,[]]" ≠ some (.object members)) ∧
      (single "data" (.array [.null, .array []])).toRowSet =
        .error (.of (.invalidResult (.notDocument "[null,[]]"))) := by
  have hparse : Tree.parse? "[null,[]]" = some (.array [.null, .array []]) := by
    have hintegral : (Json.array [.null, .array []]).Integral := by
      simp [Json.Integral, Json.parts, Json.partsOfItems]
    have htext := Tree.parse?_render Json.compactLayout_addsBlanks hintegral
    exact htext
  refine ⟨?_, ?_, rfl⟩
  · rw [toRowSet_eq_ok_iff]
    have hroom : (Mode.direct 126).Allows (.array []) :=
      Mode.allows_array_iff.mpr ⟨_, rfl, List.forall_mem_nil _⟩
    exact ⟨_, rfl, .text hparse (.array .null (.value hroom rfl))⟩
  · intro members h
    rw [hparse] at h
    cases h

end Response

end CollectionSql
