import CollectionSql.Proofs.Schemas

/-!
# Schemas are faithful to their documents

A schema made from a document says what the document says, each thing once and in the order of the
document, although names may be repeated there. It is closed: primary keys are fields that are never
null, foreign keys lead to fields. And its foreign keys can be followed from both ends: those that
point at a collection are listed by owner and then as the owner declares them, and those of one
owner are the ones that the owner has to that collection.

In a document that was read from a text, every map has one value for each key
(`Document.distinctKeys_of_parse`). Nothing else is assumed of the document.

Results:
* `Document.distinctKeys_of_parse`: the maps of a document have one value for each key.
* `Schema.foreignKey_eq_ok_iff`: the foreign key of a field is the one that its collection declares.
* `Schema.pairwise_foreignKeysTargeting`: the order of the foreign keys that point at a collection.
* `Schema.faithful_of_ofDocument`: the schema of a document is faithful to it.
-/

namespace CollectionSql

/-! ## Documents with one value for each key -/

/-- The maps in the details of a collection have one value for each key. -/
structure FieldDetails.DistinctKeys (d : FieldDetails) : Prop where
  fieldTypes : d.fieldTypes.keys.Nodup
  foreignKeys : d.foreignKeys.keys.Nodup

/-- The maps of a configuration have one value for each key. -/
structure Configuration.DistinctKeys (config : Configuration) : Prop where
  objectTypes : config.objectTypes.keys.Nodup
  objectFields : config.objectFields.keys.Nodup
  details : ∀ entry ∈ config.objectFields, entry.2.DistinctKeys

/-- The maps of a document have one value for each key. -/
def Document.DistinctKeys (d : Document) : Prop :=
  ∀ config, d.config = some config → config.DistinctKeys

section

open Json (Reader Record Tree Mode)

theorem Json.Reader.exists_of_mem_mapM {α β : Type} {f : α → Option β} {xs : List α} {ys : List β}
    (h : xs.mapM f = some ys) {y : β} (hy : y ∈ ys) : ∃ x ∈ xs, f x = some y := by
  induction xs generalizing ys with
  | nil =>
    cases h
    cases hy
  | cons x xs ih =>
    simp only [List.mapM_cons, Option.bind_eq_bind, Option.bind_eq_some_iff, Option.pure_def,
      Option.some.injEq] at h
    obtain ⟨first, hfirst, rest, hrest, rfl⟩ := h
    rcases List.mem_cons.mp hy with rfl | hy
    · exact ⟨x, List.mem_cons_self, hfirst⟩
    · obtain ⟨z, hz, hfz⟩ := ih hrest hy
      exact ⟨z, List.mem_cons_of_mem _ hz, hfz⟩

/-- A dictionary that was read has one value for each key, and each of them is one that the reader
of its values gives inside the object. -/
theorem Json.Reader.distinct_of_dict {α : Type} {value : Reader α} {mode : Mode} {t : Tree}
    {d : Dict α} (h : Reader.dict value mode t = some d) :
    d.keys.Nodup ∧ ∃ inner, mode.enter = some inner ∧
      ∀ entry ∈ d, ∃ part, value inner part = some entry.2 := by
  unfold Reader.dict at h
  split at h
  · simp only [Option.bind_eq_bind, Option.bind_eq_some_iff, Option.pure_def,
      Option.some.injEq] at h
    obtain ⟨inner, hinner, ms, -, entries, hentries, rfl⟩ := h
    refine ⟨Dict.nodup_keys_ofPairs entries, inner, hinner, fun entry hentry => ?_⟩
    obtain ⟨m, -, hm⟩ := Reader.exists_of_mem_mapM hentries (Dict.mem_of_mem_ofPairs hentry)
    obtain ⟨v, hv, rfl⟩ := Option.map_eq_some_iff.mp hm
    exact ⟨m.2, hv⟩
  · cases h

theorem Json.Record.withDefault_nil_distinct {α : Type} {r : Record} {name : String}
    {value : Reader α} {d : Dict α} (h : r.withDefault name (.dict value) [] = some d) :
    d.keys.Nodup := by
  unfold Record.withDefault at h
  split at h
  · cases h
    exact List.nodup_nil
  · exact (Reader.distinct_of_dict h).1

theorem FieldDetails.distinctKeys_of_reader {mode : Mode} {t : Tree} {d : FieldDetails}
    (h : FieldDetails.reader mode t = some d) : d.DistinctKeys := by
  simp only [FieldDetails.reader, Record.required, Option.bind_eq_bind, Option.bind_eq_some_iff,
    Option.pure_def, Option.some.injEq] at h
  obtain ⟨r, -, _, -, types, ⟨_, -, htypes⟩, _, -, _, -, _, -, foreign, hforeign, rfl⟩ := h
  exact ⟨(Reader.distinct_of_dict htypes).1, Record.withDefault_nil_distinct hforeign⟩

theorem Configuration.distinctKeys_of_reader {mode : Mode} {t : Tree} {config : Configuration}
    (h : Configuration.reader mode t = some config) : config.DistinctKeys := by
  simp only [Configuration.reader, Record.required, Option.bind_eq_bind, Option.bind_eq_some_iff,
    Option.pure_def, Option.some.injEq] at h
  obtain ⟨r, -, _, -, types, htypes, fields, ⟨_, -, hfields⟩, rfl⟩ := h
  obtain ⟨hnodup, _, -, hread⟩ := Reader.distinct_of_dict hfields
  refine ⟨Record.withDefault_nil_distinct htypes, hnodup, fun entry hentry => ?_⟩
  obtain ⟨_, hdetails⟩ := hread entry hentry
  exact FieldDetails.distinctKeys_of_reader hdetails

theorem Json.Record.enter_of_reader {names : List String} {mode : Mode} {t : Tree} {r : Record}
    (h : Record.reader names mode t = some r) : mode.enter = some r.mode := by
  simp only [Record.reader, Option.bind_eq_bind, Option.bind_eq_some_iff] at h
  obtain ⟨inner, hinner, h⟩ := h
  split at h
  · split at h
    · cases h
      exact hinner
    · cases h
  · obtain ⟨ms, -, h⟩ := Option.bind_eq_some_iff.mp h
    split at h
    · cases h
      exact hinner
    · cases h
  · cases h

/-- The configuration of a document that was read from a text was read inside one container. -/
theorem Document.config_of_parse {text : String} {d : Document} (h : Document.parse text = .ok d)
    {c : Configuration} (hc : d.config = some c) :
    ∃ t, Configuration.reader (.direct 126) t = some c := by
  unfold Document.parse at h
  split at h
  · next read hread =>
    cases h
    simp only [Reader.parse?, Document.reader, Option.bind_eq_bind, Option.bind_eq_some_iff,
      Option.pure_def, Option.some.injEq] at hread
    obtain ⟨t, -, r, hr, config, hconfig, rfl⟩ := hread
    have hmode : r.mode = .direct 126 := (Option.some.inj (Record.enter_of_reader hr)).symm
    cases hc
    unfold Record.optional Reader.option at hconfig
    split at hconfig
    · cases hconfig
    · split at hconfig
      · cases hconfig
      · obtain ⟨c', hc', heq⟩ := Option.map_eq_some_iff.mp hconfig
        cases heq
        exact ⟨_, hmode ▸ hc'⟩
  · cases h

/-- In a document that was read from a text, every map has one value for each key. -/
theorem Document.distinctKeys_of_parse {text : String} {d : Document}
    (h : Document.parse text = .ok d) : d.DistinctKeys := by
  intro c hc
  obtain ⟨t, ht⟩ := Document.config_of_parse h hc
  exact Configuration.distinctKeys_of_reader ht

end

/-! ## What a faithful schema is -/

namespace Schema

/-- The place of a foreign key: the position of its owner among the collections, and the position of
its field among the foreign keys of the owner. -/
def place (s : Schema) (key : Collection × String × ForeignKey) : Nat × Nat :=
  (s.collections.keys.idxOf key.1.name, key.1.foreignKeys.keys.idxOf key.2.1)

/-- A schema says what a configuration says. -/
structure Faithful (s : Schema) (config : Configuration) : Prop where
  /-- Its collections are the listed ones, each once, in the order of first mention. -/
  names : s.collections.keys = config.collectionNames.eraseDups
  /-- Each is under its own name, and what the details of that name say. -/
  collections : ∀ entry ∈ s.collections, entry.2.name = entry.1 ∧
    ∃ d, config.objectFields.get? entry.1 = some d ∧ entry.2.Follows d
  /-- Primary keys are fields and never null. -/
  primary : ∀ c ∈ s.collections.values, ∀ key ∈ c.primaryKeys,
    ∃ f, c.field key = .ok f ∧ f.nullable = false
  /-- The foreign key of a field leads to a field of a collection. -/
  foreign : ∀ c ∈ s.collections.values, ∀ field key,
    s.foreignKey c.name field = .ok (some key) →
      ∃ target f, s.collection key.collection = .ok target ∧ target.field key.column = .ok f
  /-- The foreign keys that point at a collection are those of the fields that point there. -/
  targeting : ∀ target c field key, (c, field, key) ∈ s.foreignKeysTargeting target ↔
    c ∈ s.collections.values ∧ s.foreignKey c.name field = .ok (some key) ∧
      key.collection = target
  /-- They are listed each once, -/
  once : ∀ target, (s.foreignKeysTargeting target).Nodup
  /-- and ordered by their owners, and for one owner by declaration. -/
  ordered : ∀ target, (s.foreignKeysTargeting target).Pairwise fun a b =>
    Prod.Lex (· < ·) (· < ·) (s.place a) (s.place b)
  /-- Those of one owner are the ones that it has to the collection. -/
  owned : ∀ target, ∀ c ∈ s.collections.values,
    ((s.foreignKeysTargeting target).filter fun key => key.1.name = c.name).map Prod.snd =
      c.foreignKeysTo target

/-! ## Following foreign keys -/

/-- Every collection declares at most one foreign key for a field. -/
def SingleKeys (s : Schema) : Prop :=
  ∀ c ∈ s.collections.values, c.foreignKeys.keys.Nodup

/-- The foreign key of a field is the one that its collection declares. -/
theorem foreignKey_eq_ok_iff {s : Schema} (hs : s.Consistent) (hsingle : s.SingleKeys)
    {c : Collection} (hc : c ∈ s.collections.values) {field : String} {key : ForeignKey} :
    s.foreignKey c.name field = .ok (some key) ↔ (field, key) ∈ c.foreignKeys := by
  rw [← Dict.get?_eq_some_iff (hsingle c hc)]
  simp only [foreignKey, Result.bind_eq_ok, Result.pure_eq_ok, collection_eq_ok_iff,
    hs.get?_name hc, Option.some.injEq, exists_eq_left']
  constructor
  · rintro ⟨_, -, hkey⟩
    exact hkey
  · intro hkey
    have hfield := (hs.keysAreFields c hc).foreign _ (Dict.mem_of_get?_eq_some hkey)
    obtain ⟨f, hf⟩ := Collection.field_eq_ok_iff.mpr hfield
    exact ⟨f, hf, hkey⟩

/-- The foreign keys that point at a collection are ordered by their owners, and for one owner by
declaration. -/
theorem pairwise_foreignKeysTargeting {s : Schema} (hs : s.Keyed) (hsingle : s.SingleKeys)
    (target : String) :
    (s.foreignKeysTargeting target).Pairwise fun a b =>
      Prod.Lex (· < ·) (· < ·) (s.place a) (s.place b) := by
  unfold foreignKeysTargeting
  rw [List.pairwise_flatMap]
  constructor
  · -- keys of one owner: the order in which it declares them
    intro c hc
    rw [List.pairwise_map]
    have hdeclared := Dict.pairwise_idxOf (hsingle c hc)
    refine (hdeclared.filter _).imp ?_
    intro a b hab
    exact Prod.Lex.right _ hab
  · -- keys of two owners: the order of the owners
    have howners := Dict.pairwise_idxOf hs.nodup
    rw [Dict.values, List.pairwise_map]
    refine howners.imp_of_mem ?_
    intro a b ha hb hab x hx y hy
    obtain ⟨_, -, rfl⟩ := List.mem_map.mp hx
    obtain ⟨_, -, rfl⟩ := List.mem_map.mp hy
    refine Prod.Lex.left _ _ ?_
    rw [hs.name_eq a ha, hs.name_eq b hb]
    exact hab

/-! ## Schemas of documents -/

theorem singleKeys_of_ofDocument {d : Document} (hd : d.DistinctKeys) {s : Schema}
    (h : ofDocument d = .ok s) : s.SingleKeys := by
  obtain ⟨config, cs, hconfig, hcs, rfl, -⟩ := ofDocument_eq_ok_iff.mp h
  intro c hc
  obtain ⟨entry, hentry, rfl⟩ := List.mem_map.mp hc
  obtain ⟨-, -, hmade⟩ := mem_of_mapM_collectionOf hcs hentry
  obtain ⟨details, hget, hdetails⟩ := collectionOf_eq_ok_iff.mp hmade
  have hkeys : entry.2.foreignKeys.keys = details.foreignKeys.keys := by
    rw [(FieldDetails.follows_of_collection hdetails).2.foreignKeys, Dict.keys, Dict.keys,
      List.map_map]
    rfl
  rw [hkeys]
  exact ((hd config hconfig).details _ (Dict.mem_of_get?_eq_some hget)).foreignKeys

/-- A primary key of a collection that passes its checks is a field that is never null. -/
theorem primary_of_collection {d : FieldDetails} {name : String} {c : Collection}
    (h : d.collection name = .ok c) {key : String} (hkey : key ∈ c.primaryKeys) :
    ∃ f, c.field key = .ok f ∧ f.nullable = false := by
  have hvalid : d.Valid := FieldDetails.collection_succeeds_iff.mp ⟨c, h⟩
  obtain ⟨-, hfollows⟩ := FieldDetails.follows_of_collection h
  obtain ⟨f, hf⟩ := Collection.field_eq_ok_iff.mpr ((FieldDetails.keysAreFields h).primary key hkey)
  refine ⟨f, hf, ?_⟩
  have hmem : (key, f) ∈ c.fields := Dict.mem_of_get?_eq_some (Collection.field_eq_ok.mp hf)
  rw [hfollows.primaryKeys] at hkey
  have hnot := hvalid.primary_required key hkey
  obtain ⟨-, -, hnullable⟩ := hfollows.fields (key, f) hmem
  rw [Bool.eq_false_iff]
  exact fun h => hnot (hnullable.mp h)

/-- **Main theorem.** The schema of a document is faithful to the configuration in it. -/
theorem faithful_of_ofDocument {d : Document} (hd : d.DistinctKeys) {s : Schema}
    (h : ofDocument d = .ok s) : ∃ config, d.config = some config ∧ s.Faithful config := by
  have hs : s.Consistent := consistent_of_ofDocument h
  have hsingle : s.SingleKeys := singleKeys_of_ofDocument hd h
  have hordered := pairwise_foreignKeysTargeting hs.toKeyed hsingle
  obtain ⟨config, cs, hconfig, hcs, rfl, -⟩ := ofDocument_eq_ok_iff.mp h
  refine ⟨config, hconfig, ⟨keys_of_mapM_collectionOf hcs, ?_, ?_, ?_, ?_, ?_, hordered, ?_⟩⟩
  · intro entry hentry
    obtain ⟨hname, -, hmade⟩ := mem_of_mapM_collectionOf hcs hentry
    obtain ⟨details, hget, hdetails⟩ := collectionOf_eq_ok_iff.mp hmade
    exact ⟨hname, details, hget, (FieldDetails.follows_of_collection hdetails).2⟩
  · intro c hc key hkey
    obtain ⟨entry, hentry, rfl⟩ := List.mem_map.mp hc
    obtain ⟨-, -, hmade⟩ := mem_of_mapM_collectionOf hcs hentry
    obtain ⟨details, -, hdetails⟩ := collectionOf_eq_ok_iff.mp hmade
    exact primary_of_collection hdetails hkey
  · intro c hc field key hkey
    have hmem := (foreignKey_eq_ok_iff hs hsingle hc).mp hkey
    obtain ⟨target, htarget, hcolumn⟩ := hs.target c hc _ hmem
    obtain ⟨f, hf⟩ := Collection.field_eq_ok_iff.mpr hcolumn
    exact ⟨target, f, collection_eq_ok_iff.mpr htarget, hf⟩
  · intro target c field key
    rw [mem_foreignKeysTargeting_iff]
    constructor
    · rintro ⟨hc, hkey, hto⟩
      exact ⟨hc, (foreignKey_eq_ok_iff hs hsingle hc).mpr hkey, hto⟩
    · rintro ⟨hc, hkey, hto⟩
      exact ⟨hc, (foreignKey_eq_ok_iff hs hsingle hc).mp hkey, hto⟩
  · intro target
    refine (hordered target).imp ?_
    rintro a b hab rfl
    rcases Prod.lex_def.mp hab with hlt | ⟨-, hlt⟩
    · exact Nat.lt_irrefl _ hlt
    · exact Nat.lt_irrefl _ hlt
  · intro target c hc
    rw [hs.filter_foreignKeysTargeting hc, List.map_map]
    exact List.map_id _

end Schema

/-- A configuration with a collection that is listed twice, a field that is listed twice, and
foreign keys that lead forward, back and to their own collection. -/
def staffConfiguration : Configuration where
  collectionNames := ["teams", "people", "teams"]
  objectTypes := []
  objectFields := [
    ("people", ⟨["id", "boss", "team", "id"],
      [("id", "Int"), ("boss", "Int"), ("team", "String")], ["id"], [], ["boss"],
      [("boss", ⟨"people", "id"⟩), ("team", ⟨"teams", "code"⟩)]⟩),
    ("teams", ⟨["code", "lead"], [("code", "String"), ("lead", "Int")], ["code"], ["lead"], [],
      [("lead", ⟨"people", "id"⟩)]⟩)]

/-- The schema of `staffConfiguration`. -/
def staff : Schema where
  collections := [
    ("teams", ⟨"teams", [("code", ⟨"code", .string, false⟩), ("lead", ⟨"lead", .int, false⟩)],
      ["code"], ["lead"], [("lead", ⟨"people", "id"⟩)]⟩),
    ("people", ⟨"people", [("id", ⟨"id", .int, false⟩), ("boss", ⟨"boss", .int, true⟩),
      ("team", ⟨"team", .string, false⟩)], ["id"], [],
      [("boss", ⟨"people", "id"⟩), ("team", ⟨"teams", "code"⟩)]⟩)]

theorem staffConfiguration_distinctKeys : staffConfiguration.DistinctKeys where
  objectTypes := by decide
  objectFields := by decide
  details := fun entry hentry => by
    simp only [staffConfiguration, List.mem_cons, List.not_mem_nil, or_false] at hentry
    rcases hentry with rfl | rfl
    · exact ⟨by decide, by decide⟩
    · exact ⟨by decide, by decide⟩

/-- Two fields of the staff schema point at people, and the one that the first collection has comes
first. -/
theorem staff_faithful :
    staff.Faithful staffConfiguration ∧
      (staff.foreignKeysTargeting "people").map (fun key => (key.1.name, key.2.1)) =
        [("teams", "lead"), ("people", "boss")] := by
  have hdistinct : (Document.mk (some staffConfiguration)).DistinctKeys := by
    rintro config ⟨⟩
    exact staffConfiguration_distinctKeys
  obtain ⟨_, hconfig, hfaithful⟩ :=
    Schema.faithful_of_ofDocument (s := staff) hdistinct rfl
  cases hconfig
  exact ⟨hfaithful, rfl⟩

end CollectionSql
