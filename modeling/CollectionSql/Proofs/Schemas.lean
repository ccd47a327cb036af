import CollectionSql.Proofs.Documents

/-!
# The schemas that documents describe

A schema made from a document keeps every collection once, under its own name, and its keys are
closed: primary keys and foreign keys are fields, and a foreign key leads to a field of a
collection of the schema. Everything that is proved about compilation rests on these facts alone.

Results:
* `Schema.Keyed.get?_name`: a collection of a schema is the one that its name leads to.
* `Schema.Keyed.filter_foreignKeysTargeting`: foreign keys are the same followed from either end.
* `Schema.consistent_of_ofDocument`: the schema of a document is consistent.
-/

namespace CollectionSql

/-! ## Collections under their own names -/

namespace Schema

/-- Every collection is kept once, under its own name. -/
structure Keyed (s : Schema) : Prop where
  nodup : s.collections.keys.Nodup
  name_eq : ∀ entry ∈ s.collections, entry.2.name = entry.1

theorem Keyed.name_of_get? {s : Schema} (hs : s.Keyed) {name : String} {c : Collection}
    (h : s.collections.get? name = some c) : c.name = name :=
  hs.name_eq _ (Dict.mem_of_get?_eq_some h)

theorem mem_values_of_get? {s : Schema} {name : String} {c : Collection}
    (h : s.collections.get? name = some c) : c ∈ s.collections.values :=
  List.mem_map_of_mem (Dict.mem_of_get?_eq_some h)

/-- A collection of the schema is the one that its name leads to. -/
theorem Keyed.get?_name {s : Schema} (hs : s.Keyed) {c : Collection}
    (h : c ∈ s.collections.values) : s.collections.get? c.name = some c := by
  obtain ⟨⟨name, _⟩, hmem, rfl⟩ := List.mem_map.mp h
  rw [hs.name_eq _ hmem]
  exact (Dict.get?_eq_some_iff hs.nodup).mpr hmem

theorem mem_foreignKeysTargeting_iff {s : Schema} {target field : String} {c : Collection}
    {key : ForeignKey} :
    (c, field, key) ∈ s.foreignKeysTargeting target ↔
      c ∈ s.collections.values ∧ (field, key) ∈ c.foreignKeys ∧ key.collection = target := by
  simp only [foreignKeysTargeting, Collection.foreignKeysTo, List.mem_flatMap, List.mem_map,
    List.mem_filter, decide_eq_true_eq, Prod.mk.injEq]
  constructor
  · rintro ⟨_, hc, _, ⟨hkey, hto⟩, rfl, rfl⟩
    exact ⟨hc, hkey, hto⟩
  · rintro ⟨hc, hkey, hto⟩
    exact ⟨c, hc, (field, key), ⟨hkey, hto⟩, rfl, rfl⟩

/-- The foreign keys that point at `target` and belong to one collection are those that the
collection has to `target`. -/
theorem Keyed.filter_foreignKeysTargeting {s : Schema} (hs : s.Keyed) {c : Collection}
    (hc : c ∈ s.collections.values) (target : String) :
    ((s.foreignKeysTargeting target).filter fun k => k.1.name = c.name) =
      (c.foreignKeysTo target).map fun key => (c, key) := by
  have hnames : (s.collections.values.map Collection.name).Nodup := by
    have heq : s.collections.values.map Collection.name = s.collections.keys := by
      rw [Dict.values, Dict.keys, List.map_map]
      exact List.map_congr_left hs.name_eq
    rw [heq]
    exact hs.nodup
  unfold foreignKeysTargeting
  generalize s.collections.values = cs at hc hnames
  -- the keys of a collection are kept or dropped together, by the name of the collection
  have hkept : ∀ owner : Collection,
      ((owner.foreignKeysTo target).map fun key => (owner, key)).filter
        (fun k => k.1.name = c.name) =
      if owner.name = c.name then (owner.foreignKeysTo target).map fun key => (owner, key)
      else [] := by
    intro owner
    by_cases h : owner.name = c.name <;> simp [List.filter_map, Function.comp_def, h]
  induction cs with
  | nil => cases hc
  | cons owner rest ih =>
    obtain ⟨howner, hrest⟩ := List.nodup_cons.mp hnames
    rw [List.flatMap_cons, List.filter_append, hkept]
    rcases List.mem_cons.mp hc with rfl | hc
    · have hothers : (rest.flatMap fun c => (c.foreignKeysTo target).map fun key =>
          (c, key)).filter (fun k => k.1.name = c.name) = [] := by
        rw [List.filter_eq_nil_iff]
        intro k hk
        obtain ⟨other, hother, hk⟩ := List.mem_flatMap.mp hk
        obtain ⟨key, -, rfl⟩ := List.mem_map.mp hk
        simp only [decide_eq_true_eq]
        intro heq
        exact howner (List.mem_map.mpr ⟨other, hother, heq⟩)
      rw [if_pos rfl, hothers, List.append_nil]
    · have hne : owner.name ≠ c.name := by
        intro heq
        exact howner (List.mem_map.mpr ⟨c, hc, heq.symm⟩)
      rw [if_neg hne, List.nil_append]
      exact ih hc hrest

theorem collection_eq_ok_iff {s : Schema} {name : String} {c : Collection} :
    s.collection name = .ok c ↔ s.collections.get? name = some c := by
  rw [collection]
  cases s.collections.get? name <;> simp

end Schema

/-! ## Documents -/

/-- What validation establishes about a single collection. -/
structure Collection.KeysAreFields (c : Collection) : Prop where
  primary : ∀ key ∈ c.primaryKeys, key ∈ c.fieldNames
  foreign : ∀ key ∈ c.foreignKeys, key.1 ∈ c.fieldNames

/-- A collection that passes its checks has keys that are fields. -/
theorem FieldDetails.keysAreFields {d : FieldDetails} {name : String} {c : Collection}
    (h : d.collection name = .ok c) : c.KeysAreFields := by
  have hvalid : d.Valid := FieldDetails.collection_succeeds_iff.mp ⟨c, h⟩
  obtain ⟨-, hfollows⟩ := FieldDetails.follows_of_collection h
  constructor
  · intro key hkey
    rw [hfollows.fieldNames, List.mem_eraseDups]
    rw [hfollows.primaryKeys] at hkey
    exact hvalid.primary key hkey
  · intro key hkey
    rw [hfollows.fieldNames, List.mem_eraseDups]
    rw [hfollows.foreignKeys] at hkey
    obtain ⟨source, hsource, rfl⟩ := List.mem_map.mp hkey
    exact hvalid.foreign source.1 (List.mem_map_of_mem hsource)

namespace Schema

/-- A schema whose collections are under their own names and whose keys are all fields. -/
structure Consistent (s : Schema) : Prop extends s.Keyed where
  keysAreFields : ∀ c ∈ s.collections.values, c.KeysAreFields
  target : ∀ c ∈ s.collections.values, ∀ key ∈ c.foreignKeys,
    ∃ t, s.collections.get? key.2.collection = some t ∧ key.2.column ∈ t.fieldNames

/-- The schema of a document is consistent. -/
theorem consistent_of_ofDocument {d : Document} {s : Schema} (h : ofDocument d = .ok s) :
    s.Consistent := by
  obtain ⟨config, cs, -, hcs, rfl, hclosed⟩ := ofDocument_eq_ok_iff.mp h
  refine ⟨⟨Dict.nodup_keys_ofPairs _, fun entry hentry =>
    (mem_of_mapM_collectionOf hcs hentry).1⟩, fun c hc => ?_, hclosed⟩
  obtain ⟨entry, hentry, rfl⟩ := List.mem_map.mp hc
  obtain ⟨-, -, hmade⟩ := mem_of_mapM_collectionOf hcs hentry
  obtain ⟨d, -, hd⟩ := collectionOf_eq_ok_iff.mp hmade
  exact FieldDetails.keysAreFields hd

end Schema

/-! ## A small schema -/

/-- A document about organisations, their users, and the orders that users make. -/
def shopDocument : Document where
  config := some {
    collectionNames := ["orgs", "users", "orders"]
    objectTypes := []
    objectFields := [
      ("orgs", ⟨["id", "name"], [("id", "Int"), ("name", "String")], ["id"], [], [], []⟩),
      ("users", ⟨["id", "org_id"], [("id", "Int"), ("org_id", "Int")], ["id"], [], [],
        [("org_id", ⟨"orgs", "id"⟩)]⟩),
      ("orders", ⟨["id", "user_id", "org_id"],
        [("id", "Int"), ("user_id", "Int"), ("org_id", "Int")], ["id"], [], [],
        [("user_id", ⟨"users", "id"⟩), ("org_id", ⟨"orgs", "id"⟩)]⟩)] }

/-- The schema of `shopDocument`. -/
def shop : Schema where
  collections := [
    ("orgs", ⟨"orgs", [("id", ⟨"id", .int, false⟩), ("name", ⟨"name", .string, false⟩)], ["id"],
      [], []⟩),
    ("users", ⟨"users", [("id", ⟨"id", .int, false⟩), ("org_id", ⟨"org_id", .int, false⟩)],
      ["id"], [], [("org_id", ⟨"orgs", "id"⟩)]⟩),
    ("orders", ⟨"orders", [("id", ⟨"id", .int, false⟩), ("user_id", ⟨"user_id", .int, false⟩),
      ("org_id", ⟨"org_id", .int, false⟩)], ["id"], [],
      [("user_id", ⟨"users", "id"⟩), ("org_id", ⟨"orgs", "id"⟩)]⟩)]

theorem ofDocument_shopDocument : Schema.ofDocument shopDocument = .ok shop := rfl

end CollectionSql
