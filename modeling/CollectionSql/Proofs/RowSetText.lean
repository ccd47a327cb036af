import CollectionSql.Proofs.RowSets

/-!
# Texts and decoded values hold the same row sets

Some executors decode a JSON column before they return it, others return its text. A text is read
straight into a row set, under the nesting limit, and a decoded object is taken apart without one.
Where the limit leaves room for the object the two agree, whatever the object is: both give the same
row set, or both are errors. And a row set with rows that was written, in either way, is read as the
row set that it was.

Results:
* `RowSet.reader_direct`: within the nesting limit a row set is read as it would be without.
* `RowSet.carried`: the form of a row set is read as the row set.
* `Response.decodes_alike`: text and decoded value of an object, and of a row set.
-/

namespace CollectionSql

open Json (Mode Reader Tree Carries carries_list carries_record carries_jsonDict)

namespace Json.Tree

variable {names : List String} {t : Tree} {given : Dict Tree}

theorem Gives.height_pos (h : t.Gives names given) : 0 < t.height := by
  cases h <;> exact Nat.succ_pos _

theorem Gives.height_le (h : t.Gives names given) {levels : Nat} (ht : t.height ≤ levels + 1) :
    ∀ e ∈ given, e.2.height ≤ levels := by
  cases h with
  | object honce =>
    rw [height, Nat.add_le_add_iff_right, heightOfMembers_le, List.forall_mem_map] at ht
    exact fun e he => ht e (List.mem_of_mem_filter he)
  | array hfits =>
    rw [height, Nat.add_le_add_iff_right, heightOfItems_le] at ht
    exact fun e he => ht e.2 (List.of_mem_zip he).2

/-- Within the nesting limit a field says what it would say without. -/
theorem says_direct_iff {α : Type} {form : α → Json} {levels : Nat} {part : Option Tree}
    {o : Option α} (h : ∀ t, part = some t → t.height ≤ levels) :
    Says form (.direct levels) part o ↔ Says form .buffered part o := by
  constructor
  · rintro (_ | _ | ⟨-, hstands⟩)
    · exact .missing
    · exact .null
    · exact .value trivial hstands
  · rintro (_ | _ | ⟨-, hstands⟩)
    · exact .missing
    · exact .null
    · exact .value (h _ rfl) hstands

end Json.Tree

namespace RowSet

/-- Within the nesting limit a row set is read as it would be without. -/
theorem reader_direct {t : Tree} {levels : Nat} (h : t.height ≤ levels) :
    reader (.direct levels) t = reader .buffered t := by
  refine Option.ext fun s => ?_
  rw [reader_eq_some_iff, reader_eq_some_iff]
  have hparts : ∀ {given : Dict Tree} {inner : Nat}, t.Gives partNames given → levels = inner + 1 →
      (Tree.Says .object (.direct inner) (Dict.get? given "aggregates") s.aggregates ∧
          Tree.Says rowsForm (.direct inner) (Dict.get? given "rows") s.rows ↔
        Tree.Says .object .buffered (Dict.get? given "aggregates") s.aggregates ∧
          Tree.Says rowsForm .buffered (Dict.get? given "rows") s.rows) := by
    rintro given inner hgives rfl
    have hroom : ∀ name part, Dict.get? given name = some part → part.height ≤ inner :=
      fun _ _ hpart => hgives.height_le h _ (Dict.mem_of_get?_eq_some hpart)
    rw [Tree.says_direct_iff (hroom _), Tree.says_direct_iff (hroom _)]
  constructor
  · rintro ⟨inner, given, henter, hgives, hsays⟩
    cases levels with
    | zero => cases henter
    | succ levels =>
      cases henter
      exact ⟨.buffered, given, rfl, hgives, (hparts hgives rfl).mp hsays⟩
  · rintro ⟨inner, given, henter, hgives, hsays⟩
    cases henter
    obtain ⟨levels, rfl⟩ := Nat.exists_eq_succ_of_ne_zero (hgives.height_pos.trans_le h).ne'
    exact ⟨.direct levels, given, rfl, hgives, (hparts hgives rfl).mpr hsays⟩

/-- The form of a row set with rows is read as the row set. -/
theorem carried {aggregates : Option Row} {rows : List Row}
    (h : (toJson ⟨aggregates, some rows⟩).Regular) :
    Carries reader (toJson ⟨aggregates, some rows⟩) ⟨aggregates, some rows⟩ := by
  obtain ⟨-, hmembers⟩ := Json.regular_object.mp h
  have hrows : Carries (Reader.list (.dict .json)) (rowsForm rows) rows := by
    obtain ⟨hintegral, hdistinct⟩ := hmembers ("rows", rowsForm rows)
      (List.mem_append_right _ (List.mem_singleton.mpr rfl))
    refine carries_list fun row hrow => carries_jsonDict ⟨?_, ?_⟩
    · exact Json.integral_array.mp hintegral _ (List.mem_map_of_mem hrow)
    · exact Json.distinct_array.mp hdistinct _ (List.mem_map_of_mem hrow)
  have haggregates : ∀ row, aggregates = some row →
      Carries (Reader.dict .json) (.object row) row := by
    rintro row rfl
    exact carries_jsonDict (hmembers ("aggregates", .object row)
      (List.mem_append_left _ (List.mem_singleton.mpr rfl)))
  have hrow : ∀ row : Row, Json.object row ≠ .null := fun _ => Json.noConfusion
  have hlist : ∀ rows, rowsForm rows ≠ .null := fun _ => Json.noConfusion
  have hpart : ∀ written, some rows = some written →
      Carries (Reader.list (.dict .json)) (rowsForm written) written := by
    rintro written ⟨⟩
    exact hrows
  cases aggregates with
  | none =>
    refine carries_record (by decide) (List.sublist_cons_self "aggregates" ["rows"]) hmembers ?_
    intro r hr
    simp [hr.optional "aggregates" rfl hrow haggregates, hr.optional "rows" rfl hlist hpart]
  | some row =>
    refine carries_record (by decide) (List.Sublist.refl ["aggregates", "rows"]) hmembers ?_
    intro r hr
    simp [hr.optional "aggregates" rfl hrow haggregates, hr.optional "rows" rfl hlist hpart]

end RowSet

namespace Response

/-- Two responses are decoded as the same row set, or both cannot be decoded. The faults may
differ. -/
def DecodedAlike (r r' : Response) : Prop :=
  (∃ s, r.toRowSet = .ok s ∧ r'.toRowSet = .ok s) ∨
    ∃ fault fault', r.toRowSet = .error (.of (.invalidResult fault)) ∧
      r'.toRowSet = .error (.of (.invalidResult fault'))

theorem decodedAlike_of_eq {r r' : Response} (h : r.toRowSet = r'.toRowSet) :
    r.DecodedAlike r' := by
  unfold DecodedAlike
  cases hr : r.toRowSet with
  | ok s => exact .inl ⟨s, rfl, h ▸ hr⟩
  | error e =>
    obtain ⟨fault, rfl⟩ := toRowSet_fails hr
    exact .inr ⟨fault, fault, rfl, h ▸ hr⟩

theorem rowSetOf_text {members : List (String × Json)} (h : (Json.object members).Integral)
    (hdepth : (Json.object members).depth ≤ Json.nestingLimit) :
    rowSetOf (.string (Json.object members).compact) = rowSetOf (.object members) := by
  have hparse := Tree.parse?_render Json.compactLayout_addsBlanks h
  rw [rowSetOf, rowSetOf, Reader.parse?, Json.compact, hparse, Option.bind_eq_bind,
    Option.bind_some, RowSet.reader_direct hdepth]

theorem toRowSet_single (column : String) (value : Json) :
    (single column value).toRowSet = (rowSetOf value >>= requireRows).mapError
      fun fault => .of (.invalidResult fault) :=
  rfl

/-- **Main theorem.** Text and decoded value are read alike. For every object the nesting limit
leaves room for, its text and the object itself are decoded as the same row set, or neither is one.
And a row set with rows is decoded as itself from its text and from its form. -/
theorem decodes_alike (column : String) :
    (∀ members, (Json.object members).Integral →
      (Json.object members).depth ≤ Json.nestingLimit →
        (single column (.object members)).DecodedAlike
          (single column (.string (Json.object members).compact))) ∧
    ∀ s : RowSet, s.rows.isSome → s.toJson.Regular → s.toJson.depth ≤ Json.nestingLimit →
      (single column (.string s.toJson.compact)).toRowSet = .ok s ∧
        (single column s.toJson).toRowSet = .ok s := by
  constructor
  · intro members hintegral hdepth
    refine decodedAlike_of_eq ?_
    rw [toRowSet_single, toRowSet_single, rowSetOf_text hintegral hdepth]
  · rintro ⟨aggregates, rows⟩ hsome hregular hdepth
    obtain ⟨rows, rfl⟩ := Option.isSome_iff_exists.mp hsome
    have hvalue : (single column (RowSet.toJson ⟨aggregates, some rows⟩)).toRowSet =
        .ok ⟨aggregates, some rows⟩ := by
      have hread := (RowSet.carried hregular).read .buffered trivial
      rw [toRowSet_single, RowSet.toJson, rowSetOf, ← RowSet.toJson, hread]
      rfl
    refine ⟨?_, hvalue⟩
    rw [toRowSet_single, RowSet.toJson, rowSetOf_text hregular.integral hdepth, ← RowSet.toJson,
      ← toRowSet_single, hvalue]

/-- A row set with two rows and the number of all rows. -/
def firstOrders : RowSet where
  aggregates := some [("all", .number (.integer 7))]
  rows := some [[("id", .number (.integer 1)), ("lines", .array [.object []])], []]

/-- The members of a document that holds no row set: the rows are not objects. -/
def listedOrders : List (String × Json) :=
  [("page", .null), ("rows", .array [.array [], .object []])]

theorem firstOrders_decodes_alike :
    (single "data" (.object listedOrders)).DecodedAlike
        (single "data" (.string (Json.object listedOrders).compact)) ∧
      (single "data" (.string firstOrders.toJson.compact)).toRowSet = .ok firstOrders ∧
      (single "data" firstOrders.toJson).toRowSet = .ok firstOrders := by
  obtain ⟨halike, hwritten⟩ := decodes_alike "data"
  refine ⟨halike listedOrders ?_ (by decide), hwritten firstOrders rfl ⟨?_, ?_⟩ (by decide)⟩
  · simp [listedOrders, Json.Integral, Json.parts, Json.partsOfItems, Json.partsOfMembers]
  · simp [firstOrders, RowSet.toJson, Json.Integral, Json.parts, Json.partsOfItems,
      Json.partsOfMembers, Number.IsInteger64]
  · simp [firstOrders, RowSet.toJson, Json.Distinct, Json.parts, Json.partsOfItems,
      Json.partsOfMembers, Dict.keys]

end Response

end CollectionSql
