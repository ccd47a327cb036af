import CollectionSql.Proofs.Documents
import CollectionSql.Sqlite.Definition
import CollectionSql.Sqlite.Introspection

/-!
# Documents of databases

What the config document of a database says, table by table, and when a schema can be made of it.
Of everything that is checked when a schema is made, one thing is left to chance: SQLite does not
ask whether the target of a foreign key exists, matches its name whatever the case, and lets it be
one of the internal tables. All other checks pass for every catalogue that SQLite can report
(`Catalogue.WellFormed`).

**Deviation of foreign keys without target columns.** Such a key stands for the primary key of its
target. The document maps all its columns to the first column of that primary key, whatever their
place in the key (`Catalogue.undeclaredKey_kept`). This is column by column only for keys of one
column.

Results:
* `Catalogue.documents_of_document`: the document has a description of every table with data.
* `Catalogue.keys_foreignKeys`: it keeps one foreign key for each column that one starts from.
* `Catalogue.valid_of_describes`: the description of a table agrees with itself.
* `Catalogue.ofDocument_document_iff`: a document makes a schema iff its foreign keys resolve.
* `Catalogue.undeclaredKey_kept`: where the columns of a key without target columns lead.
-/

namespace CollectionSql

/-- The foreign key that a document keeps for a column of a table. -/
def Document.foreignKey? (d : Document) (table column : String) : Option ForeignKeyDetails := do
  let config ← d.config
  let details ← config.objectFields.get? table
  details.foreignKeys.get? column

namespace Sqlite

theorem mem_distinct {α : Type} [BEq α] [LawfulBEq α] {items : List α} {item : α} :
    item ∈ distinct items ↔ item ∈ items := by
  induction items using List.reverseRecOn with
  | nil => rfl
  | append_singleton items last ih =>
    have hstep : distinct (items ++ [last]) =
        if (distinct items).contains last then distinct items else distinct items ++ [last] := by
      rw [distinct, List.foldl_append]
      rfl
    rw [hstep, List.mem_append, List.mem_singleton, ← ih]
    by_cases hlast : last ∈ distinct items
    · rw [if_pos (List.contains_iff_mem.mpr hlast)]
      constructor
      · exact .inl
      · rintro (h | rfl)
        · exact h
        · exact hlast
    · rw [if_neg fun h => hlast (List.contains_iff_mem.mp h), List.mem_append, List.mem_singleton]

/-! ## What SQLite can report -/

/-- The columns that a foreign key starts from, in order. -/
def KeyInfo.sources (key : KeyInfo) : List String := key.columns.map Prod.fst

namespace TableInfo

/-- The names of the columns, in order. -/
def columnNames (t : TableInfo) : List String := t.columns.map ColumnInfo.name

/-- The columns that foreign keys start from, key by key. -/
def keySources (t : TableInfo) : List String := t.foreignKeys.flatMap KeyInfo.sources

/-- The column at a position of the primary key, which are counted from one. -/
def keyColumnAt? (t : TableInfo) (position : Nat) : Option String :=
  (t.columns.find? fun c => c.keyPosition == position).map ColumnInfo.name

/-- Columns have different names, and keys and indexes are on columns of the table. -/
@[mk_iff]
structure WellFormed (t : TableInfo) : Prop where
  columns : t.columnNames.Nodup
  sources : ∀ column ∈ t.keySources, column ∈ t.columnNames
  indexed : ∀ index ∈ t.uniqueIndexes, ∀ column ∈ index, column ∈ t.columnNames

instance (t : TableInfo) : Decidable t.WellFormed := decidable_of_iff _ t.wellFormed_iff.symm

theorem eq_of_name_eq {t : TableInfo} (ht : t.columnNames.Nodup) {a b : ColumnInfo}
    (ha : a ∈ t.columns) (hb : b ∈ t.columns) (h : a.name = b.name) : a = b :=
  List.inj_on_of_nodup_map ht ha hb h

theorem mem_keySources {t : TableInfo} {key : KeyInfo} (hkey : key ∈ t.foreignKeys)
    {column : String} (hcolumn : column ∈ key.sources) : column ∈ t.keySources :=
  List.mem_flatMap.mpr ⟨key, hkey, hcolumn⟩

theorem exists_of_keyColumnAt? {t : TableInfo} {position : Nat} {name : String}
    (h : t.keyColumnAt? position = some name) :
    ∃ c ∈ t.columns, c.keyPosition = position ∧ c.name = name := by
  obtain ⟨c, hc, rfl⟩ := Option.map_eq_some_iff.mp h
  have hposition := List.find?_some hc
  exact ⟨c, List.mem_of_find?_eq_some hc, by simpa using hposition, rfl⟩

end TableInfo

namespace Catalogue

/-- Tables have different names, and each of them is well formed. -/
@[mk_iff]
structure WellFormed (c : Catalogue) : Prop where
  names : (c.tables.map TableInfo.name).Nodup
  tables : ∀ t ∈ c.tables, t.WellFormed

instance (c : Catalogue) : Decidable c.WellFormed := decidable_of_iff _ c.wellFormed_iff.symm

theorem mem_tables_of_mem_dataTables {c : Catalogue} {t : TableInfo} (h : t ∈ c.dataTables) :
    t ∈ c.tables :=
  List.mem_of_mem_filter h

theorem nodup_dataTables {c : Catalogue} (hc : (c.tables.map TableInfo.name).Nodup) :
    (c.dataTables.map TableInfo.name).Nodup :=
  (List.filter_sublist.map _).nodup hc

/-! ## Foreign keys -/

section

variable {c : Catalogue} {t : TableInfo} {keys : Dict ForeignKeyDetails}

/-- The columns that foreign keys start from, each with the target of its key and the column that
was declared for it. -/
def keyRows (t : TableInfo) : List (String × String × Option String) :=
  t.foreignKeys.flatMap fun key => key.columns.map (key.target, ·)

theorem map_keyRows (t : TableInfo) : (keyRows t).map (fun row => row.2.1) = t.keySources := by
  rw [keyRows, List.map_flatMap, TableInfo.keySources]
  refine List.flatMap_congr fun key _ => ?_
  rw [List.map_map]
  rfl

theorem exists_of_mem_keyRows {row : String × String × Option String} (h : row ∈ keyRows t) :
    ∃ key ∈ t.foreignKeys, row.1 = key.target ∧ row.2 ∈ key.columns := by
  obtain ⟨key, hkey, hrow⟩ := List.mem_flatMap.mp h
  obtain ⟨column, hcolumn, rfl⟩ := List.mem_map.mp hrow
  exact ⟨key, hkey, rfl, hcolumn⟩

/-- The entry that is written for a column. -/
def keyEntry (c : Catalogue) (t : TableInfo) (row : String × String × Option String) :
    Result (String × ForeignKeyDetails) :=
  (c.targetColumn t.name row.2.1 row.1 row.2.2).map fun column => (row.2.1, ⟨row.1, column⟩)

theorem foreignKeys_eq_ok_iff :
    c.foreignKeys t = .ok keys ↔
      ∃ entries, (keyRows t).mapM (c.keyEntry t) = .ok entries ∧ keys = Dict.ofPairs entries := by
  have hentries : c.foreignKeys t =
      (keyRows t).mapM (c.keyEntry t) >>= fun entries => pure (Dict.ofPairs entries) := rfl
  rw [hentries, Result.bind_eq_ok]
  simp only [Result.pure_eq_ok, eq_comm (a := keys)]

/-- There is one foreign key for each column that one starts from. -/
theorem keys_foreignKeys (h : c.foreignKeys t = .ok keys) : keys.keys = t.keySources.eraseDups := by
  obtain ⟨entries, hentries, rfl⟩ := foreignKeys_eq_ok_iff.mp h
  have hsources : entries.map Prod.fst = (keyRows t).map fun row => row.2.1 :=
    Result.map_of_mapM_eq_ok (fun row entry hentry => by
      obtain ⟨_, -, rfl⟩ := Result.map_eq_ok.mp hentry
      rfl) hentries
  rw [Dict.keys_ofPairs, hsources, map_keyRows]

/-- The foreign key of a column is one of those that the table declares for it. -/
theorem exists_key_of_get? (h : c.foreignKeys t = .ok keys) {column : String}
    {details : ForeignKeyDetails} (hget : keys.get? column = some details) :
    ∃ key ∈ t.foreignKeys, ∃ declared, (column, declared) ∈ key.columns ∧
      details.table = key.target ∧
      c.targetColumn t.name column key.target declared = .ok details.column := by
  obtain ⟨entries, hentries, rfl⟩ := foreignKeys_eq_ok_iff.mp h
  have hmem := Dict.mem_of_mem_ofPairs (Dict.mem_of_get?_eq_some hget)
  obtain ⟨⟨target, source, declared⟩, hrow, hentry⟩ := Result.exists_of_mem_mapM hentries hmem
  obtain ⟨found, hfound, heq⟩ := Result.map_eq_ok.mp hentry
  cases heq
  obtain ⟨key, hkey, rfl, hcolumn⟩ := exists_of_mem_keyRows hrow
  exact ⟨key, hkey, declared, hcolumn, rfl, hfound⟩

end

/-! ## Tables -/

/-- Details say what the catalogue reports of a table. -/
structure Describes (c : Catalogue) (t : TableInfo) (d : FieldDetails) : Prop where
  fieldNames : d.fieldNames = t.columnNames
  typed : ∀ name, name ∈ d.fieldTypes.keys ↔ name ∈ t.columnNames
  types : t.columnNames.Nodup → ∀ column ∈ t.columns, ∃ type,
    ScalarType.ofDeclaration column.declaration = .ok type ∧
      d.fieldTypes.get? column.name = some type.name
  primaryKeys : d.primaryKeys = (t.columns.filter fun c => 0 < c.keyPosition).map ColumnInfo.name
  uniqueKeys : d.uniqueKeys = distinct t.uniqueIndexes.flatten
  nullableKeys : d.nullableKeys = (t.columns.filter ColumnInfo.isNullable).map ColumnInfo.name
  foreignKeys : c.foreignKeys t = .ok d.foreignKeys

section

variable {c : Catalogue} {t : TableInfo} {d : FieldDetails}

theorem describes_of_describe {form : Json} (h : c.describe t = .ok (d, form)) :
    c.Describes t d := by
  simp only [describe, Result.bind_eq_ok, Result.pure_eq_ok] at h
  obtain ⟨types, htypes, keys, hkeys, heq⟩ := h
  have hd := (Prod.mk.inj heq).1
  have hnames : types.map (fun e => e.1.name) = t.columnNames :=
    Result.map_of_mapM_eq_ok (fun column entry hentry => by
      obtain ⟨_, -, rfl⟩ := Result.map_eq_ok.mp hentry
      rfl) htypes
  have hkeysOfTypes : Dict.keys (types.map fun e => (e.1.name, e.2.name)) = t.columnNames := by
    rw [Dict.keys, List.map_map]
    exact hnames
  subst hd
  refine ⟨rfl, fun name => ?_, fun hnodup column hcolumn => ?_, rfl, rfl, rfl, hkeys⟩
  · rw [Dict.keys_ofPairs, List.mem_eraseDups]
    exact iff_of_eq (congrArg (name ∈ ·) hkeysOfTypes)
  · obtain ⟨entry, hmem, hentry⟩ := Result.exists_of_mapM_of_mem htypes hcolumn
    obtain ⟨type, htype, rfl⟩ := Result.map_eq_ok.mp hentry
    have hpair : (column.name, type.name) ∈ types.map fun e => (e.1.name, e.2.name) :=
      List.mem_map_of_mem hmem
    refine ⟨type, ?_, ?_⟩
    · unfold ColumnInfo.type at htype
      cases hof : ScalarType.ofDeclaration column.declaration with
      | error e => simp [hof, Except.mapError] at htype
      | ok found => simpa [hof, Except.mapError] using htype
    · rw [← hkeysOfTypes] at hnodup
      rw [Dict.ofPairs_of_nodup hnodup]
      exact (Dict.get?_eq_some_iff hnodup).mpr hpair

/-- The description of a table agrees with itself. -/
theorem valid_of_describes (ht : t.WellFormed) (h : c.Describes t d) : d.Valid := by
  have hcolumn : ∀ p : ColumnInfo → Bool, ∀ name ∈ (t.columns.filter p).map ColumnInfo.name,
      name ∈ d.fieldNames := by
    intro p name hname
    obtain ⟨column, hcolumn, rfl⟩ := List.mem_map.mp hname
    rw [h.fieldNames]
    exact List.mem_map_of_mem (List.mem_of_mem_filter hcolumn)
  refine ⟨?_, ?_, ?_, ?_, ?_, ?_, ?_⟩
  · intro name hname
    rw [h.fieldNames]
    exact (h.typed name).mp hname
  · intro name hname
    rw [h.fieldNames] at hname
    obtain ⟨column, hmem, rfl⟩ := List.mem_map.mp hname
    obtain ⟨type, -, htype⟩ := h.types ht.columns column hmem
    exact ⟨type.name, ScalarType.exists_name_iff.mp ⟨type, rfl⟩, htype⟩
  · rw [h.primaryKeys]
    exact hcolumn _
  · intro name hname
    rw [h.uniqueKeys, mem_distinct] at hname
    obtain ⟨index, hindex, hname⟩ := List.mem_flatten.mp hname
    rw [h.fieldNames]
    exact ht.indexed index hindex name hname
  · rw [h.nullableKeys]
    exact hcolumn _
  · -- a column in both lists would be inside and outside of the primary key
    rw [h.primaryKeys, h.nullableKeys]
    intro name hprimary hnullable
    obtain ⟨a, ha, rfl⟩ := List.mem_map.mp hprimary
    obtain ⟨b, hb, hname⟩ := List.mem_map.mp hnullable
    obtain ⟨ha, hposition⟩ := List.mem_filter.mp ha
    obtain ⟨hb, hnull⟩ := List.mem_filter.mp hb
    have heq : b = a := TableInfo.eq_of_name_eq ht.columns hb ha hname
    subst heq
    simp only [decide_eq_true_eq] at hposition
    simp only [ColumnInfo.isNullable, Bool.and_eq_true, beq_iff_eq] at hnull
    omega
  · intro name hname
    rw [keys_foreignKeys h.foreignKeys, List.mem_eraseDups] at hname
    rw [h.fieldNames]
    exact ht.sources name hname

end

/-! ## Documents -/

section

variable {c : Catalogue} {d : Document}

/-- A configuration says what the catalogue reports: it lists the tables with data, and has for each
of them the details that describe it. -/
structure Documents (c : Catalogue) (config : Configuration) : Prop where
  names : config.collectionNames = c.dataTables.map TableInfo.name
  details : (c.dataTables.map TableInfo.name).Nodup → ∀ t ∈ c.dataTables,
    ∃ d, config.objectFields.get? t.name = some d ∧ c.Describes t d

theorem documents_of_document (h : c.document = .ok d) :
    ∃ config, d.config = some config ∧ c.Documents config := by
  simp only [document, Result.bind_eq_ok, Result.pure_eq_ok] at h
  obtain ⟨described, hdescribed, rfl⟩ := h
  refine ⟨_, rfl, rfl, fun hnodup t ht => ?_⟩
  have hnames : Dict.keys (described.map fun e => (e.1, e.2.1)) =
      c.dataTables.map TableInfo.name := by
    rw [Dict.keys, List.map_map]
    refine Result.map_of_mapM_eq_ok (fun t entry hentry => ?_) hdescribed
    obtain ⟨_, -, rfl⟩ := Result.map_eq_ok.mp hentry
    rfl
  obtain ⟨entry, hmem, hentry⟩ := Result.exists_of_mapM_of_mem hdescribed ht
  obtain ⟨⟨details, form⟩, hdetails, rfl⟩ := Result.map_eq_ok.mp hentry
  have hpair : (t.name, details) ∈ described.map fun e => (e.1, e.2.1) := List.mem_map_of_mem hmem
  rw [← hnames] at hnodup
  refine ⟨details, ?_, describes_of_describe hdetails⟩
  show (Dict.ofPairs _).get? t.name = some details
  rw [Dict.ofPairs_of_nodup hnodup]
  exact (Dict.get?_eq_some_iff hnodup).mpr hpair

variable {config : Configuration} {t : TableInfo} {details : FieldDetails}

/-- A foreign key has a target iff it names a table with data and one of its columns. -/
theorem hasTarget_iff (hnodup : (c.dataTables.map TableInfo.name).Nodup)
    (hconfig : c.Documents config) {key : ForeignKeyDetails} :
    config.HasTarget key ↔
      ∃ target ∈ c.dataTables, target.name = key.table ∧ key.column ∈ target.columnNames := by
  rw [Configuration.HasTarget, hconfig.names]
  constructor
  · rintro ⟨htable, d, hd, hcolumn⟩
    obtain ⟨target, htarget, hname⟩ := List.mem_map.mp htable
    obtain ⟨d', hd', hdescribes⟩ := hconfig.details hnodup target htarget
    have heq : d = d' := by
      rw [hname, hd] at hd'
      exact Option.some.inj hd'
    rw [heq, hdescribes.fieldNames] at hcolumn
    exact ⟨target, htarget, hname, hcolumn⟩
  · rintro ⟨target, htarget, hname, hcolumn⟩
    obtain ⟨d, hd, hdescribes⟩ := hconfig.details hnodup target htarget
    rw [← hname]
    refine ⟨List.mem_map_of_mem htarget, d, hd, ?_⟩
    rw [hdescribes.fieldNames]
    exact hcolumn

/-- What holds of all foreign keys of a table holds of the key of each column that one starts
from. -/
theorem forall_mem_foreignKeys_iff (hdescribes : c.Describes t details)
    {P : ForeignKeyDetails → Prop} :
    (∀ key ∈ details.foreignKeys, P key.2) ↔
      ∀ column ∈ t.keySources, ∃ key, details.foreignKeys.get? column = some key ∧ P key := by
  have hkeys := keys_foreignKeys hdescribes.foreignKeys
  have hnodup : details.foreignKeys.keys.Nodup := by
    rw [hkeys]
    exact nodup_eraseDups _
  have hsource : ∀ column, column ∈ t.keySources ↔ column ∈ details.foreignKeys.keys := by
    intro column
    rw [hkeys, List.mem_eraseDups]
  constructor
  · intro h column hcolumn
    have hsome := Dict.get?_isSome_iff.mpr ((hsource column).mp hcolumn)
    obtain ⟨key, hkey⟩ := Option.isSome_iff_exists.mp hsome
    exact ⟨key, hkey, h _ (Dict.mem_of_get?_eq_some hkey)⟩
  · intro h key hkey
    obtain ⟨key', hget, hP⟩ := h key.1 ((hsource _).mpr (List.mem_map_of_mem hkey))
    have heq := (Dict.get?_eq_some_iff hnodup).mpr hkey
    rw [hget] at heq
    rwa [← Option.some.inj heq]

theorem foreignKey?_eq (hnodup : (c.dataTables.map TableInfo.name).Nodup)
    (hd : d.config = some config) (hconfig : c.Documents config) (ht : t ∈ c.dataTables) :
    ∃ details, config.objectFields.get? t.name = some details ∧ c.Describes t details ∧
      ∀ column, d.foreignKey? t.name column = details.foreignKeys.get? column := by
  obtain ⟨details, hdetails, hdescribes⟩ := hconfig.details hnodup t ht
  refine ⟨details, hdetails, hdescribes, fun column => ?_⟩
  rw [Document.foreignKey?, hd]
  show (config.objectFields.get? t.name >>= fun d => d.foreignKeys.get? column) = _
  rw [hdetails]
  rfl

end

end Catalogue

/-! ## Schemas -/

/-- A collection is what the catalogue reports of a table: its columns in their order, with the
types that they declare, and its primary key. A field may be null unless its column is declared
otherwise or part of the primary key. -/
structure TableInfo.MirroredBy (t : TableInfo) (c : Collection) : Prop where
  fieldNames : c.fieldNames = t.columnNames
  primaryKeys : c.primaryKeys = (t.columns.filter fun c => 0 < c.keyPosition).map ColumnInfo.name
  fields : ∀ column ∈ t.columns, ∃ f, c.field column.name = .ok f ∧
    ScalarType.ofDeclaration column.declaration = .ok f.type ∧
    (f.nullable = true ↔ column.notNull = false ∧ column.keyPosition = 0)

namespace Catalogue

theorem mirroredBy_of_collection {c : Catalogue} {t : TableInfo} {d : FieldDetails}
    {collection : Collection} (ht : t.WellFormed) (hdescribes : c.Describes t d)
    (h : collection.Follows d) : t.MirroredBy collection := by
  have hnames : collection.fieldNames = t.columnNames := by
    rw [h.fieldNames, hdescribes.fieldNames, eraseDups_of_nodup ht.columns]
  refine ⟨hnames, by rw [h.primaryKeys, hdescribes.primaryKeys], fun column hcolumn => ?_⟩
  have hname : column.name ∈ collection.fieldNames := by
    rw [hnames]
    exact List.mem_map_of_mem hcolumn
  obtain ⟨f, hf⟩ := Collection.field_eq_ok_iff.mpr hname
  have hentry := Dict.mem_of_get?_eq_some (Collection.field_eq_ok.mp hf)
  obtain ⟨-, htype, hnullable⟩ := h.fields _ hentry
  obtain ⟨type, hof, hdeclared⟩ := hdescribes.types ht.columns column hcolumn
  rw [hdeclared, Option.some.injEq] at htype
  have heq : f.type = type :=
    Except.ok.inj (((ScalarType.ofName_eq_ok_iff _ _).mpr htype).symm.trans
      ((ScalarType.ofName_eq_ok_iff _ _).mpr rfl))
  refine ⟨f, hf, heq ▸ hof, hnullable.trans ?_⟩
  -- a name stands for one column only, so being listed by name is being listed
  rw [hdescribes.nullableKeys]
  constructor
  · intro hmem
    obtain ⟨other, hother, hsame⟩ := List.mem_map.mp hmem
    obtain ⟨hother, hnull⟩ := List.mem_filter.mp hother
    rw [TableInfo.eq_of_name_eq ht.columns hother hcolumn hsame] at hnull
    simpa [ColumnInfo.isNullable] using hnull
  · intro hnull
    have hkept : column.isNullable = true := by simpa [ColumnInfo.isNullable] using hnull
    exact List.mem_map_of_mem (List.mem_filter.mpr ⟨hcolumn, hkept⟩)

/-- **Main theorem.** A schema can be made of the document of a database iff every foreign key that
the document keeps leads, letter for letter, to a table with data and one of its columns. The
collections of the schema then are the tables with data, and mirror them. -/
theorem ofDocument_document_iff {c : Catalogue} (hc : c.WellFormed) {d : Document}
    (hd : c.document = .ok d) :
    ((∃ s, Schema.ofDocument d = .ok s) ↔
      ∀ t ∈ c.dataTables, ∀ column ∈ t.keySources, ∃ key, d.foreignKey? t.name column = some key ∧
        ∃ target ∈ c.dataTables, target.name = key.table ∧ key.column ∈ target.columnNames) ∧
    ∀ s, Schema.ofDocument d = .ok s →
      s.collections.keys = c.dataTables.map TableInfo.name ∧
      ∀ t ∈ c.dataTables, ∃ collection, s.collection t.name = .ok collection ∧
        t.MirroredBy collection := by
  obtain ⟨config, hconfig, hdocuments⟩ := documents_of_document hd
  have hnodup := nodup_dataTables hc.names
  have hwellFormed : ∀ t ∈ c.dataTables, t.WellFormed :=
    fun t ht => hc.tables t (mem_tables_of_mem_dataTables ht)
  refine ⟨⟨?_, ?_⟩, ?_⟩
  · rintro ⟨s, hs⟩ t ht
    obtain ⟨config', hconfig', hvalid⟩ := Schema.valid_of_ofDocument hs
    cases hconfig.symm.trans hconfig'
    obtain ⟨details, hdetails, hdescribes, hkept⟩ :=
      foreignKey?_eq hnodup hconfig hdocuments ht
    have hname : t.name ∈ config.collectionNames := by
      rw [hdocuments.names]
      exact List.mem_map_of_mem ht
    obtain ⟨details', hdetails', -, htargets⟩ := hvalid t.name hname
    cases hdetails.symm.trans hdetails'
    simp only [hkept]
    refine (forall_mem_foreignKeys_iff hdescribes).mp fun key hkey => ?_
    exact (hasTarget_iff hnodup hdocuments).mp (htargets key hkey)
  · intro hresolve
    refine Schema.ofDocument_succeeds_of_valid ⟨config, hconfig, fun name hname => ?_⟩
    rw [hdocuments.names] at hname
    obtain ⟨t, ht, rfl⟩ := List.mem_map.mp hname
    obtain ⟨details, hdetails, hdescribes, hkept⟩ :=
      foreignKey?_eq hnodup hconfig hdocuments ht
    refine ⟨details, hdetails, valid_of_describes (hwellFormed t ht) hdescribes, ?_⟩
    refine (forall_mem_foreignKeys_iff (P := config.HasTarget) hdescribes).mpr ?_
    intro column hcolumn
    obtain ⟨key, hkey, htarget⟩ := hresolve t ht column hcolumn
    rw [hkept] at hkey
    exact ⟨key, hkey, (hasTarget_iff hnodup hdocuments).mpr htarget⟩
  · intro s hs
    obtain ⟨config', cs, hconfig', hcs, rfl, -⟩ := Schema.ofDocument_eq_ok_iff.mp hs
    cases hconfig.symm.trans hconfig'
    refine ⟨?_, fun t ht => ?_⟩
    · rw [Schema.keys_of_mapM_collectionOf hcs, hdocuments.names, eraseDups_of_nodup hnodup]
    · have hname : t.name ∈ config.collectionNames := by
        rw [hdocuments.names]
        exact List.mem_map_of_mem ht
      obtain ⟨collection, hcollection⟩ := Result.mapM_succeeds_iff.mp ⟨cs, hcs⟩ t.name hname
      obtain ⟨details, hdetails, hmade⟩ := Schema.collectionOf_eq_ok_iff.mp hcollection
      obtain ⟨details', hdetails', hdescribes⟩ := hdocuments.details hnodup t ht
      cases hdetails.symm.trans hdetails'
      refine ⟨collection, ?_, mirroredBy_of_collection (hwellFormed t ht) hdescribes
        (FieldDetails.follows_of_collection hmade).2⟩
      rw [Schema.collection, (Schema.get?_of_mapM_collectionOf hcs).mpr ⟨hname, hcollection⟩]

/-- The catalogue of a database of teams and their members, whose foreign key spells its target in
some way. -/
def teamsDatabase (target : String) : Catalogue where
  tables := [
    ⟨"teams", [⟨"id", "INTEGER", false, 1⟩, ⟨"name", "TEXT", true, 0⟩], [], [["name"]]⟩,
    ⟨"sqlite_sequence", [⟨"name", "", false, 0⟩, ⟨"seq", "", false, 0⟩], [], []⟩,
    ⟨"members", [⟨"id", "INTEGER", false, 1⟩, ⟨"team_id", "integer", false, 0⟩],
      [⟨target, [("team_id", none)]⟩], []⟩]
  views := []

/-- The target is found in either spelling, but only one of them is the name of a collection. -/
theorem teamsDatabase_schema :
    (teamsDatabase "teams").WellFormed ∧ (teamsDatabase "Teams").WellFormed ∧
    (∃ d s, (teamsDatabase "teams").document = .ok d ∧ Schema.ofDocument d = .ok s ∧
      s.collections.keys = ["teams", "members"]) ∧
    ∃ d, (teamsDatabase "Teams").document = .ok d ∧ ¬∃ s, Schema.ofDocument d = .ok s := by
  have hsame : (teamsDatabase "teams").WellFormed := by decide
  have hother : (teamsDatabase "Teams").WellFormed := by decide
  refine ⟨hsame, hother, ?_, ?_⟩
  · obtain ⟨d, hd, hkept⟩ : ∃ d, (teamsDatabase "teams").document = .ok d ∧
        d.foreignKey? "members" "team_id" = some ⟨"teams", "id"⟩ := ⟨_, rfl, rfl⟩
    obtain ⟨hiff, hschema⟩ := ofDocument_document_iff hsame hd
    have hresolve : ∀ t ∈ (teamsDatabase "teams").dataTables, ∀ column ∈ t.keySources,
        t.name = "members" ∧ column = "team_id" := by decide
    obtain ⟨s, hs⟩ := hiff.mpr fun t ht column hcolumn => by
      obtain ⟨hname, rfl⟩ := hresolve t ht column hcolumn
      rw [hname, hkept]
      exact ⟨_, rfl, by decide⟩
    exact ⟨d, s, hd, hs, (hschema s hs).1⟩
  · obtain ⟨d, hd, hkept⟩ : ∃ d, (teamsDatabase "Teams").document = .ok d ∧
        d.foreignKey? "members" "team_id" = some ⟨"Teams", "id"⟩ := ⟨_, rfl, rfl⟩
    refine ⟨d, hd, fun hschema => ?_⟩
    have hmembers : ∃ t ∈ (teamsDatabase "Teams").dataTables,
        t.name = "members" ∧ "team_id" ∈ t.keySources := by decide
    obtain ⟨t, ht, hname, hsource⟩ := hmembers
    obtain ⟨key, hkey, htarget⟩ :=
      (ofDocument_document_iff hother hd).1.mp hschema t ht "team_id" hsource
    rw [hname, hkept, Option.some.injEq] at hkey
    subst hkey
    revert htarget
    decide

/-! ## Foreign keys without target columns -/

/-- Where the columns of a foreign key without target columns lead: all of them to the first column
of the target's primary key. So the columns of the one key follow those of the other, place by
place, iff the foreign key has at most one. -/
theorem undeclaredKey_kept {c : Catalogue} (hnames : (c.tables.map TableInfo.name).Nodup)
    {d : Document} (hd : c.document = .ok d) {t : TableInfo} (ht : t ∈ c.dataTables)
    {key : KeyInfo} (hkey : key ∈ t.foreignKeys)
    (hundeclared : ∀ column ∈ key.columns, column.2 = none)
    (hown : ∀ source ∈ key.sources, ∀ other ∈ t.foreignKeys, source ∈ other.sources → other = key)
    {target : TableInfo} (htarget : c.table? key.target = some target)
    (hcolumns : target.columnNames.Nodup) :
    (∀ source ∈ key.sources, ∃ first, target.keyColumnAt? 1 = some first ∧
      d.foreignKey? t.name source = some ⟨key.target, first⟩) ∧
    ((∀ k source, key.sources[k]? = some source → ∃ column,
        target.keyColumnAt? (k + 1) = some column ∧
        d.foreignKey? t.name source = some ⟨key.target, column⟩) ↔ key.sources.length ≤ 1) := by
  obtain ⟨config, hconfig, hdocuments⟩ := documents_of_document hd
  obtain ⟨details, -, hdescribes, hkept⟩ :=
    foreignKey?_eq (nodup_dataTables hnames) hconfig hdocuments ht
  have hfirst : ∀ source ∈ key.sources, ∃ first, target.keyColumnAt? 1 = some first ∧
      d.foreignKey? t.name source = some ⟨key.target, first⟩ := by
    intro source hsource
    have hmem : source ∈ details.foreignKeys.keys := by
      rw [keys_foreignKeys hdescribes.foreignKeys, List.mem_eraseDups]
      exact TableInfo.mem_keySources hkey hsource
    obtain ⟨found, hfound⟩ := Option.isSome_iff_exists.mp (Dict.get?_isSome_iff.mpr hmem)
    obtain ⟨other, hother, declared, hcolumn, htable, htargetColumn⟩ :=
      exists_key_of_get? hdescribes.foreignKeys hfound
    obtain rfl : other = key := hown source hsource other hother (List.mem_map_of_mem hcolumn)
    obtain rfl : declared = none := hundeclared _ hcolumn
    have hlookup : (c.table? other.target).bind TableInfo.keyColumn? = target.keyColumnAt? 1 := by
      rw [htarget]
      rfl
    rw [targetColumn, hlookup] at htargetColumn
    cases hposition : target.keyColumnAt? 1 with
    | none =>
      rw [hposition] at htargetColumn
      cases htargetColumn
    | some first =>
      rw [hposition] at htargetColumn
      cases htargetColumn
      refine ⟨_, rfl, ?_⟩
      rw [hkept, hfound, ← htable]
  refine ⟨hfirst, fun hfollows => ?_, fun hlength k source hsource => ?_⟩
  · by_contra hlength
    have hsecond : 1 < key.sources.length := by omega
    obtain ⟨second, hposition, hled⟩ := hfollows 1 _ (List.getElem?_eq_getElem hsecond)
    obtain ⟨first, hposition', hled'⟩ := hfirst _ (List.getElem_mem hsecond)
    rw [hled, Option.some.injEq, ForeignKeyDetails.mk.injEq] at hled'
    obtain ⟨a, ha, haPosition, haName⟩ := TableInfo.exists_of_keyColumnAt? hposition
    obtain ⟨b, hb, hbPosition, hbName⟩ := TableInfo.exists_of_keyColumnAt? hposition'
    have hsame : a = b :=
      TableInfo.eq_of_name_eq hcolumns ha hb (haName.trans (hled'.2.trans hbName.symm))
    subst hsame
    omega
  · obtain ⟨hk, -⟩ := List.getElem?_eq_some_iff.mp hsource
    have hzero : k = 0 := by omega
    subst hzero
    exact hfirst source (List.mem_of_getElem? hsource)

/-- A database of pairs with a key of two columns, and of links to them. -/
def pairsDatabase : Catalogue := Catalogue.empty.extend {
  dropped := []
  tables := [
    ⟨"pairs", [⟨"a", "INTEGER", false, false, true, false, none⟩,
      ⟨"b", "INTEGER", false, false, true, false, none⟩], ["a", "b"], [], [], false⟩,
    ⟨"links", [⟨"id", "INTEGER", true, false, false, false, none⟩,
      ⟨"x", "INTEGER", false, false, false, false, none⟩,
      ⟨"y", "INTEGER", false, false, false, false, none⟩], [], [],
      [(["x", "y"], ⟨"pairs", []⟩)], false⟩]
  indexes := []
  views := [] }

/-- Both columns of a link lead to the first column of a pair. -/
theorem pairsDatabase_links_kept : ∃ d, pairsDatabase.document = .ok d ∧
    ∀ source ∈ ["x", "y"], d.foreignKey? "links" source = some ⟨"pairs", "a"⟩ := by
  obtain ⟨d, hd⟩ : ∃ d, pairsDatabase.document = .ok d := ⟨_, rfl⟩
  obtain ⟨pairs, hpairs, hfirst, hcolumns⟩ : ∃ pairs, pairsDatabase.table? "pairs" = some pairs ∧
      pairs.keyColumnAt? 1 = some "a" ∧ pairs.columnNames.Nodup := ⟨_, rfl, rfl, by decide⟩
  obtain ⟨links, hlinks, hname, hkeys⟩ : ∃ links ∈ pairsDatabase.dataTables, links.name = "links" ∧
      links.foreignKeys = [⟨"pairs", [("x", none), ("y", none)]⟩] :=
    ⟨_, List.mem_cons_of_mem _ List.mem_cons_self, rfl, rfl⟩
  have hkey : ⟨"pairs", [("x", none), ("y", none)]⟩ ∈ links.foreignKeys := by
    rw [hkeys]
    exact List.mem_cons_self
  have hown : ∀ other ∈ links.foreignKeys, other = ⟨"pairs", [("x", none), ("y", none)]⟩ := by
    intro other hother
    rw [hkeys] at hother
    exact List.mem_singleton.mp hother
  refine ⟨d, hd, fun source hsource => ?_⟩
  obtain ⟨first, hat, hkept⟩ := (undeclaredKey_kept (by decide) hd hlinks hkey (by decide)
    (fun _ _ other hother _ => hown other hother) hpairs hcolumns).1 source hsource
  rw [hfirst, Option.some.injEq] at hat
  rw [← hname, hkept, ← hat]

/-- So the second column of a link does not lead to the second column of a pair. -/
theorem pairsDatabase_link_astray :
    pairsDatabase.WellFormed ∧
    (pairsDatabase.table? "links").map TableInfo.foreignKeys =
      some [⟨"pairs", [("x", none), ("y", none)]⟩] ∧
    (pairsDatabase.table? "pairs").map (fun t => [1, 2, 3].map t.keyColumnAt?) =
      some [some "a", some "b", none] ∧
    ∃ d, pairsDatabase.document = .ok d ∧
      d.foreignKey? "links" "y" = some ⟨"pairs", "a"⟩ ∧
      d.foreignKey? "links" "y" ≠ some ⟨"pairs", "b"⟩ :=
  ⟨by decide, rfl, rfl, _, rfl, rfl, by decide⟩

end Catalogue

end Sqlite

end CollectionSql
