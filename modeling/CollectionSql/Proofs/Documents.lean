import CollectionSql.Proofs.Dictionaries
import CollectionSql.Proofs.Results
import CollectionSql.Schema.Validation

/-!
# Which documents describe a schema

A document is checked name by name and then key by key, with an early end at the first fault. What
the checks amount to is a plain condition on the document: every collection has details, the
details agree with themselves, and foreign keys lead to fields of listed collections. Repeated
names, the order of the checks and details that no collection has play no part in it.

Results:
* `FieldDetails.collection_succeeds_iff`: details make a collection iff they agree with themselves.
* `FieldDetails.follows_of_collection`: the collection then is what the details say.
* `Schema.ofDocument_eq_ok_iff`: a document makes a schema iff every collection can be made and
  every foreign key can be followed.
* `Schema.ofDocument_succeeds_iff_valid`: which is to say, iff the document is valid.
-/

namespace CollectionSql

/-! ## Validity -/

/-- Details agree with themselves: fields and types go together, and keys are fields. -/
structure FieldDetails.Valid (d : FieldDetails) : Prop where
  types_listed : ∀ name ∈ d.fieldTypes.keys, name ∈ d.fieldNames
  typed : ∀ name ∈ d.fieldNames,
    ∃ type ∈ ["String", "Int", "Float"], d.fieldTypes.get? name = some type
  primary : ∀ key ∈ d.primaryKeys, key ∈ d.fieldNames
  unique : ∀ key ∈ d.uniqueKeys, key ∈ d.fieldNames
  nullable : ∀ key ∈ d.nullableKeys, key ∈ d.fieldNames
  primary_required : ∀ key ∈ d.primaryKeys, key ∉ d.nullableKeys
  foreign : ∀ key ∈ d.foreignKeys.keys, key ∈ d.fieldNames

/-- A foreign key leads to a field of a collection that the configuration lists. -/
def Configuration.HasTarget (config : Configuration) (key : ForeignKeyDetails) : Prop :=
  key.table ∈ config.collectionNames ∧
    ∃ target, config.objectFields.get? key.table = some target ∧ key.column ∈ target.fieldNames

/-- Every listed collection has details that agree with themselves, and foreign keys with a
target. -/
def Configuration.Valid (config : Configuration) : Prop :=
  ∀ name ∈ config.collectionNames, ∃ d, config.objectFields.get? name = some d ∧ d.Valid ∧
    ∀ key ∈ d.foreignKeys, config.HasTarget key.2

/-- A document is valid if it has a valid configuration. -/
def Document.Valid (d : Document) : Prop := ∃ config, d.config = some config ∧ config.Valid

/-! ## Collections -/

theorem checkAll_eq_ok_iff {α : Type} {items : List α} {passes : α → Bool}
    {fault : α → ConfigurationFault} {u : Unit} :
    checkAll items passes fault = .ok u ↔ ∀ item ∈ items, passes item = true := by
  rw [checkAll]
  split
  · next h => simpa using h
  · next item h =>
    have hfail := List.find?_some h
    simp only [reduceCtorEq, false_iff, not_forall]
    exact ⟨item, List.mem_of_find?_eq_some h, by simpa using hfail⟩

theorem Collection.field_eq_ok {c : Collection} {name : String} {f : Field} :
    c.field name = .ok f ↔ c.fields.get? name = some f := by
  rw [field]
  cases c.fields.get? name <;> simp

theorem Collection.field_eq_ok_iff {c : Collection} {name : String} :
    (∃ f, c.field name = .ok f) ↔ name ∈ c.fieldNames := by
  simp only [field_eq_ok, fieldNames, ← Dict.get?_isSome_iff, Option.isSome_iff_exists]

theorem ScalarType.exists_name_iff {s : String} :
    (∃ t : ScalarType, s = t.name) ↔ s ∈ ["String", "Int", "Float"] := by
  constructor
  · rintro ⟨t, rfl⟩
    cases t <;> simp [name]
  · intro h
    simp only [List.mem_cons, List.not_mem_nil, or_false] at h
    rcases h with rfl | rfl | rfl
    · exact ⟨.string, rfl⟩
    · exact ⟨.int, rfl⟩
    · exact ⟨.float, rfl⟩

/-- A collection is what the details say: each listed field once, in the order of first mention,
with its type and whether it may be null, and the keys as they are. -/
structure Collection.Follows (c : Collection) (d : FieldDetails) : Prop where
  fieldNames : c.fieldNames = d.fieldNames.eraseDups
  fields : ∀ entry ∈ c.fields, entry.2.name = entry.1 ∧
    d.fieldTypes.get? entry.1 = some entry.2.type.name ∧
    (entry.2.nullable = true ↔ entry.1 ∈ d.nullableKeys)
  primaryKeys : c.primaryKeys = d.primaryKeys
  uniqueKeys : c.uniqueKeys = d.uniqueKeys
  foreignKeys : c.foreignKeys = d.foreignKeys.map fun key => (key.1, ⟨key.2.table, key.2.column⟩)

namespace FieldDetails

theorem isField_iff {d : FieldDetails} {name : String} :
    d.isField name = true ↔ name ∈ d.fieldNames := by
  simp [isField]

theorem checkKeys_eq_ok_iff {d : FieldDetails} {name : String} {u : Unit} :
    d.checkKeys name = .ok u ↔
      (∀ key ∈ d.fieldTypes.keys, key ∈ d.fieldNames) ∧
      (∀ key ∈ d.primaryKeys, key ∈ d.fieldNames) ∧ (∀ key ∈ d.uniqueKeys, key ∈ d.fieldNames) ∧
      (∀ key ∈ d.nullableKeys, key ∈ d.fieldNames) ∧
      ∀ key ∈ d.primaryKeys, key ∉ d.nullableKeys := by
  simp [checkKeys, Result.bind_eq_ok, checkAll_eq_ok_iff, isField_iff]

theorem field_eq_ok_iff {d : FieldDetails} {collection name : String} {f : Field} :
    d.field collection name = .ok f ↔
      f.name = name ∧ d.fieldTypes.get? name = some f.type.name ∧
        f.nullable = d.nullableKeys.contains name := by
  unfold field
  cases d.fieldTypes.get? name with
  | none => simp [Result.throw_eq_ok]
  | some type =>
    simp only [Result.bind_eq_ok, Result.pure_eq_ok, ScalarType.ofName_eq_ok_iff,
      Option.some.injEq]
    constructor
    · rintro ⟨t, rfl, rfl⟩
      exact ⟨rfl, rfl, rfl⟩
    · rintro ⟨rfl, rfl, hnullable⟩
      exact ⟨f.type, rfl, by rw [← hnullable]⟩

/-- A field can be made iff it has one of the known types. -/
theorem field_succeeds_iff {d : FieldDetails} {collection name : String} :
    (∃ f, d.field collection name = .ok f) ↔
      ∃ type ∈ ["String", "Int", "Float"], d.fieldTypes.get? name = some type := by
  simp only [field_eq_ok_iff, ← ScalarType.exists_name_iff]
  constructor
  · rintro ⟨f, -, htype, -⟩
    exact ⟨_, ⟨f.type, rfl⟩, htype⟩
  · rintro ⟨_, ⟨t, rfl⟩, htype⟩
    exact ⟨⟨name, t, d.nullableKeys.contains name⟩, rfl, htype, rfl⟩

/-- Details make a collection iff their keys pass the checks and every field can be made. -/
theorem collection_eq_ok_iff {d : FieldDetails} {name : String} {c : Collection} :
    d.collection name = .ok c ↔ d.Valid ∧ ∃ fields,
      (d.fieldNames.mapM fun f => (d.field name f).map (f, ·)) = .ok fields ∧
      c = ⟨name, Dict.ofPairs fields, d.primaryKeys, d.uniqueKeys,
        d.foreignKeys.map fun key => (key.1, ⟨key.2.table, key.2.column⟩)⟩ := by
  simp only [collection, Result.bind_eq_ok, Result.pure_eq_ok, checkKeys_eq_ok_iff,
    checkAll_eq_ok_iff, isField_iff, exists_const]
  constructor
  · rintro ⟨⟨htypes, hprimary, hunique, hnullable, hrequired⟩, fields, hfields, hforeign, rfl⟩
    refine ⟨⟨htypes, fun f hf => ?_, hprimary, hunique, hnullable, hrequired, hforeign⟩,
      fields, hfields, rfl⟩
    obtain ⟨entry, hentry⟩ := Result.mapM_succeeds_iff.mp ⟨fields, hfields⟩ f hf
    obtain ⟨field, hfield, -⟩ := Result.map_eq_ok.mp hentry
    exact field_succeeds_iff.mp ⟨field, hfield⟩
  · rintro ⟨hvalid, fields, hfields, rfl⟩
    exact ⟨⟨hvalid.types_listed, hvalid.primary, hvalid.unique, hvalid.nullable,
      hvalid.primary_required⟩, fields, hfields, hvalid.foreign, rfl⟩

/-- Details make a collection iff they agree with themselves. -/
theorem collection_succeeds_iff {d : FieldDetails} {name : String} :
    (∃ c, d.collection name = .ok c) ↔ d.Valid := by
  simp only [collection_eq_ok_iff]
  constructor
  · rintro ⟨_, hvalid, -⟩
    exact hvalid
  · intro hvalid
    have heach : ∀ f ∈ d.fieldNames, ∃ entry, (d.field name f).map (f, ·) = .ok entry := by
      intro f hf
      obtain ⟨field, hfield⟩ := field_succeeds_iff.mpr (hvalid.typed f hf)
      exact ⟨(f, field), Result.map_eq_ok.mpr ⟨field, hfield, rfl⟩⟩
    obtain ⟨fields, hfields⟩ := Result.mapM_succeeds_iff.mpr heach
    exact ⟨_, hvalid, fields, hfields, rfl⟩

/-- The collection that details make is what they say, under the name asked for. -/
theorem follows_of_collection {d : FieldDetails} {name : String} {c : Collection}
    (h : d.collection name = .ok c) : c.name = name ∧ c.Follows d := by
  obtain ⟨-, fields, hfields, rfl⟩ := collection_eq_ok_iff.mp h
  have hkeys : fields.map Prod.fst = d.fieldNames.map id :=
    Result.map_of_mapM_eq_ok (fun f entry hentry => by
      obtain ⟨_, _, rfl⟩ := Result.map_eq_ok.mp hentry
      rfl) hfields
  refine ⟨rfl, ?_, fun entry hentry => ?_, rfl, rfl, rfl⟩
  · show (Dict.ofPairs fields).keys = _
    rw [Dict.keys_ofPairs, hkeys, List.map_id]
  · obtain ⟨f, -, hf⟩ := Result.exists_of_mem_mapM hfields (Dict.mem_of_mem_ofPairs hentry)
    obtain ⟨field, hfield, rfl⟩ := Result.map_eq_ok.mp hf
    obtain ⟨hname, htype, hnullable⟩ := field_eq_ok_iff.mp hfield
    exact ⟨hname, htype, by simp [hnullable]⟩

end FieldDetails

/-! ## Schemas -/

namespace Schema

theorem collectionOf_eq_ok_iff {config : Configuration} {name : String} {c : Collection} :
    collectionOf config name = .ok c ↔
      ∃ d, config.objectFields.get? name = some d ∧ d.collection name = .ok c := by
  unfold collectionOf
  cases config.objectFields.get? name <;> simp

/-- Collections written under their names, one after the other. -/
def ofCollections (cs : List Collection) : Schema :=
  ⟨Dict.ofPairs (cs.map fun c => (c.name, c))⟩

theorem foldl_insert_eq (cs : List Collection) : cs.foldl insert ⟨[]⟩ = ofCollections cs := by
  induction cs using List.reverseRecOn with
  | nil => rfl
  | append_singleton cs c ih =>
    rw [List.foldl_append, ih, ofCollections, ofCollections, List.map_append, List.map_singleton,
      Dict.ofPairs_concat]
    rfl

/-- Every foreign key leads to a field of a collection of the schema. -/
def Closed (s : Schema) : Prop :=
  ∀ c ∈ s.collections.values, ∀ key ∈ c.foreignKeys,
    ∃ t, s.collections.get? key.2.collection = some t ∧ key.2.column ∈ t.fieldNames

theorem checkForeignKey_eq_ok_iff {s : Schema} {c : Collection} {field : String}
    {key : ForeignKey} {u : Unit} :
    s.checkForeignKey c field key = .ok u ↔
      ∃ t, s.collections.get? key.collection = some t ∧ key.column ∈ t.fieldNames := by
  unfold checkForeignKey
  cases s.collections.get? key.collection with
  | none => simp [Result.throw_eq_ok]
  | some t =>
    simp only [Result.bind_eq_ok, Result.pure_eq_ok, Option.some.injEq, exists_eq_left',
      ← Collection.field_eq_ok_iff, and_true]

theorem checkForeignKeys_eq_ok_iff {s : Schema} : s.checkForeignKeys = .ok () ↔ s.Closed := by
  simp only [checkForeignKeys, Result.forM_eq_ok, checkForeignKey_eq_ok_iff, Closed]

/-- A document makes a schema iff it has a configuration, every collection can be made, and every
foreign key can then be followed. -/
theorem ofDocument_eq_ok_iff {d : Document} {s : Schema} :
    ofDocument d = .ok s ↔ ∃ config cs, d.config = some config ∧
      config.collectionNames.mapM (collectionOf config) = .ok cs ∧
      s = ofCollections cs ∧ s.Closed := by
  unfold ofDocument
  cases d.config with
  | none => simp [Result.throw_eq_ok]
  | some config =>
    simp only [Result.bind_eq_ok, Result.pure_eq_ok, foldl_insert_eq, Option.some.injEq]
    constructor
    · rintro ⟨cs, hcs, _, hkeys, rfl⟩
      exact ⟨config, cs, rfl, hcs, rfl, checkForeignKeys_eq_ok_iff.mp hkeys⟩
    · rintro ⟨_, cs, rfl, hcs, rfl, hclosed⟩
      exact ⟨cs, hcs, (), checkForeignKeys_eq_ok_iff.mpr hclosed, rfl⟩

section

variable {config : Configuration} {cs : List Collection}

/-- The collections of a schema are the listed ones, each once, in the order of first mention. -/
theorem keys_of_mapM_collectionOf
    (h : config.collectionNames.mapM (collectionOf config) = .ok cs) :
    (ofCollections cs).collections.keys = config.collectionNames.eraseDups := by
  have hnames : cs.map Collection.name = config.collectionNames.map id :=
    Result.map_of_mapM_eq_ok (fun name c hc => by
      obtain ⟨d, -, hd⟩ := collectionOf_eq_ok_iff.mp hc
      exact (FieldDetails.follows_of_collection hd).1) h
  have hkeys : (cs.map fun c => (c.name, c)).map Prod.fst = cs.map Collection.name := by
    rw [List.map_map]
    rfl
  rw [ofCollections, Dict.keys_ofPairs, hkeys, hnames, List.map_id]

/-- The schema has a collection under a name iff the name is listed and the collection is made from
the details of that name. -/
theorem get?_of_mapM_collectionOf
    (h : config.collectionNames.mapM (collectionOf config) = .ok cs) {name : String}
    {c : Collection} :
    (ofCollections cs).collections.get? name = some c ↔
      name ∈ config.collectionNames ∧ collectionOf config name = .ok c := by
  have hmade : ∀ c', (ofCollections cs).collections.get? name = some c' →
      collectionOf config name = .ok c' := by
    intro c' hc'
    obtain ⟨made, hmem, heq⟩ :=
      List.mem_map.mp (Dict.mem_of_mem_ofPairs (Dict.mem_of_get?_eq_some hc'))
    obtain ⟨rfl, rfl⟩ := Prod.mk.inj heq
    obtain ⟨listed, -, hlisted⟩ := Result.exists_of_mem_mapM h hmem
    obtain ⟨d, -, hd⟩ := collectionOf_eq_ok_iff.mp hlisted
    rwa [(FieldDetails.follows_of_collection hd).1]
  have hsome : ((ofCollections cs).collections.get? name).isSome ↔
      name ∈ config.collectionNames := by
    rw [Dict.get?_isSome_iff, keys_of_mapM_collectionOf h, List.mem_eraseDups]
  constructor
  · intro hc
    exact ⟨hsome.mp (by rw [hc]; rfl), hmade c hc⟩
  · rintro ⟨hname, hc⟩
    obtain ⟨c', hc'⟩ := Option.isSome_iff_exists.mp (hsome.mpr hname)
    rw [hc', Except.ok.inj (hc.symm.trans (hmade c' hc'))]

/-- Every collection of a schema is under its own name, and is made from the details of that
name. -/
theorem mem_of_mapM_collectionOf
    (h : config.collectionNames.mapM (collectionOf config) = .ok cs) {entry : String × Collection}
    (hentry : entry ∈ (ofCollections cs).collections) :
    entry.2.name = entry.1 ∧ entry.1 ∈ config.collectionNames ∧
      collectionOf config entry.1 = .ok entry.2 := by
  have hget := (Dict.get?_eq_some_iff (Dict.nodup_keys_ofPairs _)).mpr hentry
  obtain ⟨hname, hc⟩ := (get?_of_mapM_collectionOf h).mp hget
  obtain ⟨d, -, hd⟩ := collectionOf_eq_ok_iff.mp hc
  exact ⟨(FieldDetails.follows_of_collection hd).1, hname, hc⟩

end

end Schema

/-! ## Failures -/

/-- An error about the configuration and nothing else. -/
def Error.IsConfiguration (e : Error) : Prop := e.kinds = [.configuration]

theorem Error.isConfiguration (fault : ConfigurationFault) :
    (Error.configuration fault).IsConfiguration := rfl

section

open Result (FailsWith)

theorem checkAll_fails {α : Type} (items : List α) (passes : α → Bool)
    (fault : α → ConfigurationFault) :
    FailsWith Error.IsConfiguration (checkAll items passes fault) := by
  unfold checkAll
  split
  · exact Result.failsWith_ok ()
  · exact Result.failsWith_error (Error.isConfiguration _)

theorem Collection.field_fails (c : Collection) (name : String) :
    FailsWith Error.IsConfiguration (c.field name) := by
  unfold field
  split
  · exact Result.failsWith_ok _
  · exact Result.failsWith_error (Error.isConfiguration _)

theorem ScalarType.ofName_fails (name : String) :
    FailsWith Error.IsConfiguration (ScalarType.ofName name) := by
  unfold ofName
  split
  · exact Result.failsWith_ok ScalarType.string
  · exact Result.failsWith_ok ScalarType.int
  · exact Result.failsWith_ok ScalarType.float
  · exact Result.failsWith_error (Error.isConfiguration _)

theorem FieldDetails.field_fails (d : FieldDetails) (collection name : String) :
    FailsWith Error.IsConfiguration (d.field collection name) := by
  unfold field
  split
  · exact (ScalarType.ofName_fails _).bind fun _ _ => Result.failsWith_ok _
  · exact Result.failsWith_error (Error.isConfiguration _)

theorem FieldDetails.collection_fails (d : FieldDetails) (name : String) :
    FailsWith Error.IsConfiguration (d.collection name) := by
  have hkeys : FailsWith Error.IsConfiguration (d.checkKeys name) :=
    (checkAll_fails _ _ _).bind fun _ _ => (checkAll_fails _ _ _).bind fun _ _ =>
      (checkAll_fails _ _ _).bind fun _ _ => (checkAll_fails _ _ _).bind fun _ _ =>
        checkAll_fails _ _ _
  refine hkeys.bind fun _ _ => ?_
  refine (Result.failsWith_mapM fun f _ => (d.field_fails name f).map).bind fun _ _ => ?_
  exact (checkAll_fails _ _ _).bind fun _ _ => Result.failsWith_ok _

theorem Schema.ofDocument_fails (d : Document) :
    FailsWith Error.IsConfiguration (Schema.ofDocument d) := by
  unfold Schema.ofDocument
  cases d.config with
  | none => exact Result.failsWith_error (Error.isConfiguration _)
  | some config =>
    refine (Result.failsWith_mapM fun name _ => ?_).bind fun cs _ => ?_
    · unfold Schema.collectionOf
      split
      · exact Result.failsWith_error (Error.isConfiguration _)
      · exact FieldDetails.collection_fails _ name
    · refine Result.FailsWith.bind ?_ fun _ _ => Result.failsWith_ok _
      refine Result.failsWith_forM fun c _ => Result.failsWith_forM fun key _ => ?_
      unfold Schema.checkForeignKey
      split
      · exact (Collection.field_fails _ _).bind fun _ _ => Result.failsWith_ok _
      · exact Result.failsWith_error (Error.isConfiguration _)

end

/-! ## Documents -/

namespace Schema

theorem valid_of_ofDocument {d : Document} {s : Schema} (h : ofDocument d = .ok s) :
    d.Valid := by
  obtain ⟨config, cs, hconfig, hcs, rfl, hclosed⟩ := ofDocument_eq_ok_iff.mp h
  refine ⟨config, hconfig, fun name hname => ?_⟩
  obtain ⟨c, hc⟩ := Result.mapM_succeeds_iff.mp ⟨cs, hcs⟩ name hname
  obtain ⟨d, hd, hmade⟩ := collectionOf_eq_ok_iff.mp hc
  refine ⟨d, hd, FieldDetails.collection_succeeds_iff.mp ⟨c, hmade⟩, fun key hkey => ?_⟩
  -- a key of the details is a key of the collection that the schema has under this name
  have hentry := Dict.mem_of_get?_eq_some ((get?_of_mapM_collectionOf hcs).mpr ⟨hname, hc⟩)
  have hmem : (key.1, ⟨key.2.table, key.2.column⟩) ∈ c.foreignKeys := by
    rw [(FieldDetails.follows_of_collection hmade).2.foreignKeys]
    exact List.mem_map_of_mem hkey
  obtain ⟨t, ht, hcolumn⟩ := hclosed c (List.mem_map_of_mem hentry) _ hmem
  obtain ⟨htable, hct⟩ := (get?_of_mapM_collectionOf hcs).mp ht
  obtain ⟨target, htarget, htmade⟩ := collectionOf_eq_ok_iff.mp hct
  rw [(FieldDetails.follows_of_collection htmade).2.fieldNames, List.mem_eraseDups] at hcolumn
  exact ⟨htable, target, htarget, hcolumn⟩

theorem ofDocument_succeeds_of_valid {d : Document} (h : d.Valid) :
    ∃ s, ofDocument d = .ok s := by
  obtain ⟨config, hconfig, hvalid⟩ := h
  have heach : ∀ name ∈ config.collectionNames, ∃ c, collectionOf config name = .ok c := by
    intro name hname
    obtain ⟨d, hd, hdvalid, -⟩ := hvalid name hname
    obtain ⟨c, hc⟩ := FieldDetails.collection_succeeds_iff.mpr hdvalid
    exact ⟨c, collectionOf_eq_ok_iff.mpr ⟨d, hd, hc⟩⟩
  obtain ⟨cs, hcs⟩ := Result.mapM_succeeds_iff.mpr heach
  refine ⟨_, ofDocument_eq_ok_iff.mpr ⟨config, cs, hconfig, hcs, rfl, fun c hc key hkey => ?_⟩⟩
  -- a key of a collection is a key of the details that the collection is made from
  obtain ⟨entry, hentry, rfl⟩ := List.mem_map.mp hc
  obtain ⟨-, hname, hentryOf⟩ := mem_of_mapM_collectionOf hcs hentry
  obtain ⟨d, hd, hmade⟩ := collectionOf_eq_ok_iff.mp hentryOf
  obtain ⟨d', hd', -, htargets⟩ := hvalid entry.1 hname
  obtain rfl : d = d' := Option.some.inj (hd.symm.trans hd')
  rw [(FieldDetails.follows_of_collection hmade).2.foreignKeys] at hkey
  obtain ⟨source, hsource, rfl⟩ := List.mem_map.mp hkey
  obtain ⟨htable, target, htarget, hcolumn⟩ := htargets source hsource
  obtain ⟨t, ht⟩ := heach source.2.table htable
  refine ⟨t, (get?_of_mapM_collectionOf hcs).mpr ⟨htable, ht⟩, ?_⟩
  obtain ⟨target', htarget', htmade⟩ := collectionOf_eq_ok_iff.mp ht
  obtain rfl : target = target' := Option.some.inj (htarget.symm.trans htarget')
  rw [(FieldDetails.follows_of_collection htmade).2.fieldNames, List.mem_eraseDups]
  exact hcolumn

/-- Only the details of listed collections are looked at. -/
theorem ofDocument_congr {config config' : Configuration}
    (hnames : config'.collectionNames = config.collectionNames)
    (hdetails : ∀ name ∈ config.collectionNames,
      config'.objectFields.get? name = config.objectFields.get? name) :
    ofDocument ⟨some config'⟩ = ofDocument ⟨some config⟩ := by
  have hcollections : config'.collectionNames.mapM (collectionOf config') =
      config.collectionNames.mapM (collectionOf config) := by
    rw [hnames]
    refine Result.mapM_congr fun name hname => ?_
    unfold collectionOf
    rw [hdetails name hname]
  unfold ofDocument
  simp only [hcollections]

/-- **Main theorem.** A document makes a schema iff it is valid. If it is not, the error is about
the configuration. Details of collections that are not listed make no difference at all. -/
theorem ofDocument_succeeds_iff_valid (d : Document) :
    ((∃ s, ofDocument d = .ok s) ↔ d.Valid) ∧
      (∀ e, ofDocument d = .error e → e.kinds = [.configuration]) ∧
      ∀ config config' : Configuration, d.config = some config →
        config'.collectionNames = config.collectionNames →
        (∀ name ∈ config.collectionNames,
          config'.objectFields.get? name = config.objectFields.get? name) →
        ofDocument ⟨some config'⟩ = ofDocument d := by
  refine ⟨⟨?_, ofDocument_succeeds_of_valid⟩, ofDocument_fails d, ?_⟩
  · rintro ⟨s, hs⟩
    exact valid_of_ofDocument hs
  · intro config config' hconfig hnames hdetails
    obtain rfl : d = ⟨some config⟩ := by
      cases d
      exact congrArg Document.mk hconfig
    exact ofDocument_congr hnames hdetails

end Schema

end CollectionSql
