import CollectionSql.Proofs.Fidelity
import CollectionSql.Proofs.JsonReading

/-!
# Documents survive their text

A document that was read from some text is read again from the text that it is written as. The text
it came from may spell it in many ways: records as arrays, keys repeated or unknown, parts left out.
Its own text has one spelling, and that one gives back the same document with its maps in the same
order.

Two things must not be lost on the way. The object types are values of any shape, so the nesting
limit counts: what was read is never deeper than what it was read from (`Tree.depth_le_of_toJson?`),
and the own text puts it at the same depth. And a number must be written so that it is read as
the same number, which is taken for granted of integers of 64 bits only.

Results:
* `Tree.depth_le_of_toJson?`, `Tree.distinct_of_toJson?`: the value of a tree is no deeper than the
  tree, and its keys are distinct.
* `Document.carried`: the form of a document is read as the document.
* `Document.parse_text`: a document that was read is read again from its own text.
-/

namespace CollectionSql

open Json (Reader Record Mode Carries carries_string carries_list carries_dict carries_record
  carries_jsonDict)

/-! ## Values of trees -/

namespace Json.Tree

/-- A property of trees holds if every constructor keeps it. -/
@[elab_as_elim]
theorem induction {P : Tree → Prop} (null : P .null) (bool : ∀ b, P (.bool b))
    (number : ∀ n, P (.number n)) (string : ∀ s, P (.string s))
    (array : ∀ items, (∀ t ∈ items, P t) → P (.array items))
    (object : ∀ members : List (Option String × Tree), (∀ m ∈ members, P m.2) →
      P (.object members)) (t : Tree) : P t := by
  refine @Tree.rec P (fun items => ∀ t ∈ items, P t) (fun members => ∀ m ∈ members, P m.2)
    (fun m => P m.2) null bool number string array object (List.forall_mem_nil _) ?_
    (List.forall_mem_nil _) ?_ (fun _ _ h => h) t
  all_goals exact fun _ _ hfirst hrest => List.forall_mem_cons.mpr ⟨hfirst, hrest⟩

theorem exists_of_mem_itemsToJson? {ts : List Tree} {js : List Json}
    (h : itemsToJson? ts = some js) {j : Json} (hj : j ∈ js) : ∃ t ∈ ts, t.toJson? = some j := by
  induction ts generalizing js with
  | nil =>
    cases h
    cases hj
  | cons t ts ih =>
    simp only [itemsToJson?, Option.bind_eq_bind, Option.bind_eq_some_iff, Option.pure_def,
      Option.some.injEq] at h
    obtain ⟨first, hfirst, rest, hrest, rfl⟩ := h
    rcases List.mem_cons.mp hj with rfl | hj
    · exact ⟨t, List.mem_cons_self, hfirst⟩
    · obtain ⟨u, hu, huj⟩ := ih hrest hj
      exact ⟨u, List.mem_cons_of_mem _ hu, huj⟩

theorem exists_of_mem_membersToJson? {ms : List (Option String × Tree)}
    {js : List (String × Json)} (h : membersToJson? ms = some js) {m : String × Json}
    (hm : m ∈ js) : ∃ m' ∈ ms, m'.2.toJson? = some m.2 := by
  induction ms generalizing js with
  | nil =>
    cases h
    cases hm
  | cons m' ms ih =>
    obtain ⟨k, t⟩ := m'
    simp only [membersToJson?, Option.bind_eq_bind, Option.bind_eq_some_iff, Option.pure_def,
      Option.some.injEq] at h
    obtain ⟨key, -, first, hfirst, rest, hrest, rfl⟩ := h
    rcases List.mem_cons.mp hm with rfl | hm
    · exact ⟨(k, t), List.mem_cons_self, hfirst⟩
    · obtain ⟨u, hu, hum⟩ := ih hrest hm
      exact ⟨u, List.mem_cons_of_mem _ hu, hum⟩

/-- The value of a tree is no deeper than the tree. -/
theorem depth_le_of_toJson? {t : Tree} {j : Json} (h : t.toJson? = some j) :
    j.depth ≤ t.height := by
  induction t using Tree.induction generalizing j with
  | null | bool =>
    cases h
    exact Nat.le_refl 0
  | number n | string s =>
    obtain ⟨v, -, rfl⟩ := Option.map_eq_some_iff.mp h
    exact Nat.le_refl 0
  | array items ih =>
    obtain ⟨js, hjs, rfl⟩ := Option.map_eq_some_iff.mp h
    rw [height, depth_array_le]
    intro j hj
    obtain ⟨t, ht, htj⟩ := exists_of_mem_itemsToJson? hjs hj
    exact (ih t ht htj).trans (heightOfItems_le.mp le_rfl t ht)
  | object members ih =>
    obtain ⟨js, hjs, rfl⟩ := Option.map_eq_some_iff.mp h
    rw [height, depth_object_le]
    intro m hm
    obtain ⟨m', hm', hmm⟩ := exists_of_mem_membersToJson? hjs (Dict.mem_of_mem_ofPairs hm)
    exact (ih m' hm' hmm).trans (heightOfMembers_le.mp le_rfl m' hm')

/-- The keys of the value of a tree are distinct, whatever was repeated in the tree. -/
theorem distinct_of_toJson? {t : Tree} {j : Json} (h : t.toJson? = some j) : j.Distinct := by
  induction t using Tree.induction generalizing j with
  | null | bool =>
    cases h
    simp [Distinct, parts]
  | number n | string s =>
    obtain ⟨v, -, rfl⟩ := Option.map_eq_some_iff.mp h
    simp [Distinct, parts]
  | array items ih =>
    obtain ⟨js, hjs, rfl⟩ := Option.map_eq_some_iff.mp h
    rw [distinct_array]
    intro j hj
    obtain ⟨t, ht, htj⟩ := exists_of_mem_itemsToJson? hjs hj
    exact ih t ht htj
  | object members ih =>
    obtain ⟨js, hjs, rfl⟩ := Option.map_eq_some_iff.mp h
    rw [distinct_object]
    refine ⟨Dict.nodup_keys_ofPairs js, fun m hm => ?_⟩
    obtain ⟨m', hm', hmm⟩ := exists_of_mem_membersToJson? hjs (Dict.mem_of_mem_ofPairs hm)
    exact ih m' hm' hmm

end Json.Tree

/-- Values that are read are no deeper than there is room for. -/
theorem Json.Reader.json_direct {levels : Nat} {t : Json.Tree} {j : Json}
    (h : Reader.json (.direct levels) t = some j) : j.depth ≤ levels ∧ j.Distinct := by
  unfold Reader.json at h
  split at h
  · next hadmits =>
    rw [Mode.admits, Bool.and_eq_true, decide_eq_true_eq] at hadmits
    exact ⟨(Json.Tree.depth_le_of_toJson? h).trans hadmits.1, Json.Tree.distinct_of_toJson? h⟩
  · cases h

/-- The object types of a document that was read are values that its text has room for. -/
theorem Document.objectTypes_of_parse {text : String} {d : Document}
    (h : Document.parse text = .ok d) {c : Configuration} (hc : d.config = some c) :
    ∀ e ∈ c.objectTypes, e.2.depth ≤ 124 ∧ e.2.Distinct := by
  obtain ⟨t, ht⟩ := Document.config_of_parse h hc
  simp only [Configuration.reader, Option.bind_eq_bind, Option.bind_eq_some_iff, Option.pure_def,
    Option.some.injEq] at ht
  obtain ⟨r, hr, names, -, types, htypes, fields, -, rfl⟩ := ht
  have hmode : r.mode = .direct 125 := (Option.some.inj (Record.enter_of_reader hr)).symm
  unfold Record.withDefault at htypes
  split at htypes
  · cases htypes
    exact List.forall_mem_nil _
  · rw [hmode] at htypes
    obtain ⟨-, inner, hinner, hread⟩ := Reader.distinct_of_dict htypes
    cases hinner
    intro e he
    obtain ⟨part, hpart⟩ := hread e he
    exact Reader.json_direct hpart

/-! ## Forms of documents -/

theorem Json.carries_ofStrings (items : List String) :
    Carries (.list .string) (.ofStrings items) items :=
  carries_list fun s _ => carries_string s

theorem Json.carries_ofStringDict {d : Dict String} (hd : d.keys.Nodup) :
    Carries (.dict .string) (.ofStringDict d) d :=
  carries_dict hd fun e _ => carries_string e.2

theorem ForeignKeyDetails.carried (d : ForeignKeyDetails) :
    Carries ForeignKeyDetails.reader d.toJson d := by
  have htable := carries_string d.table
  have hcolumn := carries_string d.column
  refine carries_record (by decide) (List.Sublist.refl ["table", "column"]) ?_ fun r hr => ?_
  · simp [htable.regular, hcolumn.regular]
  · simp [hr.required "table" rfl htable, hr.required "column" rfl hcolumn]

theorem FieldDetails.carried {d : FieldDetails} (hd : d.DistinctKeys) :
    Carries FieldDetails.reader d.toJson d := by
  have hnames := Json.carries_ofStrings d.fieldNames
  have htypes := Json.carries_ofStringDict hd.fieldTypes
  have hprimary := Json.carries_ofStrings d.primaryKeys
  have hunique := Json.carries_ofStrings d.uniqueKeys
  have hnullable := Json.carries_ofStrings d.nullableKeys
  have hforeign := carries_dict hd.foreignKeys fun e _ => e.2.carried
  refine carries_record (by decide) (List.Sublist.refl ["field_names", "field_types",
    "primary_keys", "unique_keys", "nullable_keys", "foreign_keys"]) ?_ fun r hr => ?_
  · simp [hnames.regular, htypes.regular, hprimary.regular, hunique.regular, hnullable.regular,
      hforeign.regular]
  · simp [hr.required "field_names" rfl hnames, hr.required "field_types" rfl htypes,
      hr.withDefault "primary_keys" rfl hprimary, hr.withDefault "unique_keys" rfl hunique,
      hr.withDefault "nullable_keys" rfl hnullable, hr.withDefault "foreign_keys" rfl hforeign]

theorem Configuration.carried {c : Configuration} (hc : c.DistinctKeys)
    (hvalues : ∀ e ∈ c.objectTypes, e.2.Regular) :
    Carries Configuration.reader c.toJson c := by
  have hnames := Json.carries_ofStrings c.collectionNames
  have hfields := carries_dict hc.objectFields fun e he => FieldDetails.carried (hc.details e he)
  have htypes := carries_jsonDict (Json.regular_object.mpr ⟨hc.objectTypes, hvalues⟩)
  rw [Configuration.toJson]
  split
  · next hnone =>
    refine carries_record (by decide) (List.Sublist.cons_cons "collection_names"
      (List.sublist_cons_self "object_types" ["object_fields"])) ?_ fun r hr => ?_
    · simp [hnames.regular, hfields.regular]
    · simp [hr.required "collection_names" rfl hnames, hr.withDefault_none "object_types" rfl,
        hr.required "object_fields" rfl hfields, ← hnone]
  · refine carries_record (by decide)
      (List.Sublist.refl ["collection_names", "object_types", "object_fields"]) ?_ fun r hr => ?_
    · simp [hnames.regular, hfields.regular, htypes.regular]
    · simp [hr.required "collection_names" rfl hnames, hr.withDefault "object_types" rfl htypes,
        hr.required "object_fields" rfl hfields]

/-- The form of a document is read as the document. -/
theorem Document.carried {d : Document} (hd : d.DistinctKeys)
    (htypes : ∀ c, d.config = some c → ∀ e ∈ c.objectTypes, e.2.Regular) :
    Carries Document.reader d.toJson d := by
  have hconfig : ∀ c, d.config = some c → Carries Configuration.reader c.toJson c :=
    fun c hc => Configuration.carried (hd c hc) (htypes c hc)
  have hnull : ∀ c : Configuration, c.toJson ≠ .null := fun c => Json.noConfusion
  obtain ⟨config⟩ := d
  cases config with
  | none =>
    refine carries_record (by decide) (List.nil_sublist ["config"]) (List.forall_mem_nil _) ?_
    intro r hr
    simp [hr.optional "config" rfl hnull hconfig]
  | some c =>
    refine carries_record (by decide) (List.Sublist.refl ["config"]) ?_ fun r hr => ?_
    · simp [(hconfig c rfl).regular]
    · simp [hr.optional "config" rfl hnull hconfig]

/-! ## Room for documents -/

section

open Json (depth_array_le depth_object_le)

theorem Json.depth_ofStrings_le (items : List String) : (Json.ofStrings items).depth ≤ 1 := by
  refine depth_array_le.mpr fun j hj => ?_
  obtain ⟨s, -, rfl⟩ := List.mem_map.mp hj
  exact le_rfl

theorem Json.depth_ofStringDict_le (d : Dict String) : (Json.ofStringDict d).depth ≤ 1 := by
  refine depth_object_le.mpr fun m hm => ?_
  obtain ⟨e, -, rfl⟩ := List.mem_map.mp hm
  exact le_rfl

theorem ForeignKeyDetails.depth_toJson_le (d : ForeignKeyDetails) : d.toJson.depth ≤ 1 := by
  refine depth_object_le.mpr ?_
  simp [Json.depth, Json.Tree.ofJson, Json.Tree.height]

theorem FieldDetails.depth_toJson_le (d : FieldDetails) : d.toJson.depth ≤ 3 := by
  have hforeign : (Json.object (d.foreignKeys.map fun e => (e.1, e.2.toJson))).depth ≤ 2 := by
    refine depth_object_le.mpr fun m hm => ?_
    obtain ⟨e, -, rfl⟩ := List.mem_map.mp hm
    exact e.2.depth_toJson_le
  have hlists := fun items => (Json.depth_ofStrings_le items).trans one_le_two
  have htypes := (Json.depth_ofStringDict_le d.fieldTypes).trans one_le_two
  refine depth_object_le.mpr ?_
  simp [hlists, htypes, hforeign]

/-- A document has room if there is room for its object types. -/
theorem Document.depth_toJson_le {d : Document}
    (h : ∀ c, d.config = some c → ∀ e ∈ c.objectTypes, e.2.depth ≤ 124) :
    d.toJson.depth ≤ Json.nestingLimit := by
  refine depth_object_le.mpr fun m hm => ?_
  obtain ⟨config⟩ := d
  cases config with
  | none => cases hm
  | some c =>
    cases List.mem_singleton.mp hm
    have hfields : (Json.object (c.objectFields.map fun e => (e.1, e.2.toJson))).depth ≤ 125 := by
      refine depth_object_le.mpr fun m hm => ?_
      obtain ⟨e, -, rfl⟩ := List.mem_map.mp hm
      exact e.2.depth_toJson_le.trans (by decide)
    have htypes : (Json.object c.objectTypes).depth ≤ 125 := depth_object_le.mpr (h c rfl)
    have hnames := (Json.depth_ofStrings_le c.collectionNames).trans (show 1 ≤ 125 by decide)
    refine depth_object_le.mpr fun m hm => ?_
    simp only [List.mem_append, List.mem_singleton] at hm
    rcases hm with (rfl | hm) | rfl
    · exact hnames
    · split at hm
      · cases hm
      · cases List.mem_singleton.mp hm
        exact htypes
    · exact hfields

end

/-- **Main theorem.** A document that was read from a text, in whichever spelling, is read again
from its own text, which is then the text of what was read. Its object types may hold all values but
numbers that are not integers of 64 bits. -/
theorem Document.parse_text {text : String} {d : Document} (h : Document.parse text = .ok d)
    (hnumbers : ∀ c, d.config = some c → ∀ e ∈ c.objectTypes, e.2.Integral) :
    Document.parse d.text = .ok d ∧ (Document.parse d.text).map Document.text = .ok d.text := by
  have htypes : ∀ c, d.config = some c → ∀ e ∈ c.objectTypes, e.2.Regular := fun c hc e he =>
    ⟨hnumbers c hc e he, (Document.objectTypes_of_parse h hc e he).2⟩
  have hdepth : d.toJson.depth ≤ Json.nestingLimit := Document.depth_toJson_le
    fun c hc e he => (Document.objectTypes_of_parse h hc e he).1
  have hcarried := Document.carried (Document.distinctKeys_of_parse h) htypes
  have hparse : Document.parse d.text = .ok d := by
    rw [Document.parse, Document.text, (Reader.parse?_text hcarried hdepth).2]
  refine ⟨hparse, ?_⟩
  rw [hparse]
  rfl

/-- A document in another spelling: its configuration and its details are arrays, a key of the
object types is repeated, one member is unknown and most parts are left out. -/
def terseSpelling : Json :=
  .object [
    ("version", .number (.integer 3)),
    ("config", .array [
      .array [.string "users"],
      .object [
        ("users", .array [.null, .object []]),
        ("least", .number (.integer (-0x8000000000000000))),
        ("users", .object [("note", .string "\n\"")])],
      .object [("users", .array [.array [.string "id"], .object [("id", .string "int")]])]])]

/-- What that spelling says. -/
def terseDocument : Document where
  config := some {
    collectionNames := ["users"]
    objectTypes := [
      ("users", .object [("note", .string "\n\"")]),
      ("least", .number (.integer (-0x8000000000000000)))]
    objectFields := [("users", ⟨["id"], [("id", "int")], [], [], [], []⟩)] }

theorem terseDocument_parse_text :
    Document.parse terseSpelling.compact = .ok terseDocument ∧
      Document.parse terseDocument.text = .ok terseDocument := by
  have hspelling : terseSpelling.Integral := by
    simp [terseSpelling, Json.Integral, Json.parts, Json.partsOfItems, Json.partsOfMembers,
      Number.IsInteger64]
  have hread : Document.parse terseSpelling.compact = .ok terseDocument := by
    rw [Document.parse, Reader.parse?, Json.compact,
      Json.Tree.parse?_render Json.compactLayout_addsBlanks hspelling]
    rfl
  refine ⟨hread, (Document.parse_text hread ?_).1⟩
  intro c hc
  cases hc
  simp [Json.Integral, Json.parts, Json.partsOfMembers, Number.IsInteger64]

end CollectionSql
