import Mathlib.Data.List.Induction
import Mathlib.Data.List.Nodup
import CollectionSql.Dict

/-!
# Laws of dictionaries

Lookups and writes in dictionaries, in terms of their keys and entries. Most laws need no condition.
Where a lookup has to find every entry, the keys must be all different; writing pairs one after the
other always gives such a dictionary.

Results:
* `eraseDups_concat`, `nodup_eraseDups`: each item of a list once, in the order of first use.
* `get?_eq_some_iff`: with keys that are all different, a lookup finds exactly the entries.
* `keys_ofPairs`: pairs written one after the other leave each key once, in the order of first use.
* `ofPairs_of_nodup`: with keys that are all different, nothing changes.
* `getElem?_of_index?`, `get?_of_index?`: at the position of a key stands its entry, and its value.
* `index?_eq_some_iff`: with keys that are all different, a position is one among the keys.
* `index?_insert`, `getElem?_insert`: what a write does to positions, and to what stands there.
* `pairwise_idxOf`: the entries stand in the order of the positions of their keys.
-/

namespace CollectionSql

universe u

/-! ## Lists without repetitions -/

theorem eraseDups_concat {α : Type u} [BEq α] [LawfulBEq α] (xs : List α) (x : α) :
    (xs ++ [x]).eraseDups = if x ∈ xs then xs.eraseDups else xs.eraseDups ++ [x] := by
  rw [List.eraseDups_append]
  by_cases h : x ∈ xs <;> simp [List.removeAll, h, List.eraseDups_cons]

theorem nodup_eraseDups {α : Type u} [BEq α] [LawfulBEq α] (xs : List α) : xs.eraseDups.Nodup := by
  induction xs using List.reverseRecOn with
  | nil => exact List.nodup_nil
  | append_singleton xs x ih =>
    rw [eraseDups_concat]
    by_cases hx : x ∈ xs
    · rw [if_pos hx]
      exact ih
    · rw [if_neg hx, List.nodup_append]
      refine ⟨ih, List.nodup_singleton x, fun a ha b hb => ?_⟩
      rw [List.mem_singleton.mp hb]
      rintro rfl
      exact hx (List.mem_eraseDups.mp ha)

theorem eraseDups_of_nodup {α : Type u} [BEq α] [LawfulBEq α] {xs : List α} (h : xs.Nodup) :
    xs.eraseDups = xs := by
  induction xs using List.reverseRecOn with
  | nil => rfl
  | append_singleton xs x ih =>
    obtain ⟨hxs, -, hapart⟩ := List.nodup_append.mp h
    have hx : x ∉ xs := fun hmem => hapart x hmem x (List.mem_singleton.mpr rfl) rfl
    rw [eraseDups_concat, if_neg hx, ih hxs]

namespace Dict

variable {α β : Type u}

/-! ## Lookups -/

theorem mem_of_get?_eq_some {d : Dict α} {key : String} {value : α}
    (h : d.get? key = some value) : (key, value) ∈ d := by
  induction d with
  | nil => cases h
  | cons entry rest ih =>
    obtain ⟨k, v⟩ := entry
    rw [get?] at h
    split at h
    · next hk =>
      cases h
      rw [hk]
      exact List.mem_cons_self
    · exact List.mem_cons_of_mem _ (ih h)

theorem get?_isSome_iff {d : Dict α} {key : String} : (d.get? key).isSome ↔ key ∈ d.keys := by
  induction d with
  | nil => simp [get?, keys]
  | cons entry rest ih =>
    obtain ⟨k, v⟩ := entry
    by_cases hk : k = key
    · simp [get?, keys, hk]
    · have hk' : ¬key = k := fun e => hk e.symm
      simpa [get?, keys, hk, hk'] using ih

/-- With keys that are all different, a lookup finds exactly the entries. -/
theorem get?_eq_some_iff {d : Dict α} (hd : d.keys.Nodup) {key : String} {value : α} :
    d.get? key = some value ↔ (key, value) ∈ d := by
  refine ⟨mem_of_get?_eq_some, fun h => ?_⟩
  induction d with
  | nil => cases h
  | cons entry rest ih =>
    obtain ⟨k, v⟩ := entry
    obtain ⟨hk, hrest⟩ := List.nodup_cons.mp hd
    rcases List.mem_cons.mp h with h | h
    · cases h
      simp [get?]
    · have hne : k ≠ key := by
        rintro rfl
        exact hk (List.mem_map.mpr ⟨_, h, rfl⟩)
      rw [get?, if_neg hne]
      exact ih hrest h

theorem get?_append (d d' : Dict α) (key : String) :
    get? (d ++ d') key = (d.get? key).or (d'.get? key) := by
  induction d with
  | nil => rfl
  | cons entry rest ih =>
    obtain ⟨k, v⟩ := entry
    rw [List.cons_append, get?, get?]
    split
    · rfl
    · exact ih

theorem get?_filter (d : Dict α) {p : String → Bool} {key : String} (h : p key = true) :
    get? (d.filter fun entry => p entry.1) key = d.get? key := by
  induction d with
  | nil => rfl
  | cons entry rest ih =>
    obtain ⟨k, v⟩ := entry
    rw [List.filter_cons]
    by_cases hk : p k = true
    · rw [if_pos hk, get?, get?, ih]
    · have hne : k ≠ key := fun e => hk (e ▸ h)
      rw [if_neg hk, get?, if_neg hne, ih]

/-! ## Writes -/

theorem mem_insert {d : Dict α} {key : String} {value : α} {entry : String × α}
    (h : entry ∈ d.insert key value) : entry = (key, value) ∨ entry ∈ d := by
  induction d with
  | nil => exact .inl (List.mem_singleton.mp h)
  | cons first rest ih =>
    obtain ⟨k, v⟩ := first
    rw [insert] at h
    split at h
    · next hk =>
      rcases List.mem_cons.mp h with rfl | h
      · exact .inl (by rw [hk])
      · exact .inr (List.mem_cons_of_mem _ h)
    · rcases List.mem_cons.mp h with rfl | h
      · exact .inr List.mem_cons_self
      · exact (ih h).imp_right (List.mem_cons_of_mem _)

/-- A new key goes to the end. -/
theorem insert_of_not_mem {d : Dict α} {key : String} (h : key ∉ d.keys) (value : α) :
    d.insert key value = d ++ [(key, value)] := by
  induction d with
  | nil => rfl
  | cons entry rest ih =>
    obtain ⟨k, v⟩ := entry
    have hk : k ≠ key := fun e => h (e ▸ List.mem_cons_self)
    rw [insert, if_neg hk, ih fun hmem => h (List.mem_cons_of_mem _ hmem), List.cons_append]

/-! ## Pairs written one after the other -/

theorem ofPairs_concat (pairs : List (String × α)) (pair : String × α) :
    ofPairs (pairs ++ [pair]) = (ofPairs pairs).insert pair.1 pair.2 := by
  rw [ofPairs, List.foldl_append]
  rfl

/-- Pairs written one after the other leave each key once, in the order of first use. -/
theorem keys_ofPairs (pairs : List (String × α)) :
    (ofPairs pairs).keys = (pairs.map Prod.fst).eraseDups := by
  induction pairs using List.reverseRecOn with
  | nil => rfl
  | append_singleton pairs pair ih =>
    rw [ofPairs_concat, keys_insert, ih, List.map_append, List.map_singleton, eraseDups_concat]
    simp only [List.mem_eraseDups]

theorem nodup_keys_ofPairs (pairs : List (String × α)) : (ofPairs pairs).keys.Nodup := by
  rw [keys_ofPairs]
  exact nodup_eraseDups _

/-- Pairs whose keys are all different are a dictionary as they stand. -/
theorem ofPairs_of_nodup {pairs : List (String × α)} (h : (keys pairs).Nodup) :
    ofPairs pairs = pairs := by
  induction pairs using List.reverseRecOn with
  | nil => rfl
  | append_singleton pairs pair ih =>
    rw [keys, List.map_append, List.nodup_append] at h
    obtain ⟨hpairs, -, hapart⟩ := h
    rw [ofPairs_concat, ih hpairs, insert_of_not_mem]
    exact fun hmem => hapart _ hmem _ (List.mem_singleton.mpr rfl) rfl

theorem mem_of_mem_ofPairs {pairs : List (String × α)} {entry : String × α}
    (h : entry ∈ ofPairs pairs) : entry ∈ pairs := by
  induction pairs using List.reverseRecOn with
  | nil => exact h
  | append_singleton pairs pair ih =>
    rw [ofPairs_concat] at h
    rcases mem_insert h with rfl | h
    · exact List.mem_append_right _ (List.mem_singleton.mpr rfl)
    · exact List.mem_append_left _ (ih h)

/-- A lookup among pairs whose values are changed one by one finds the changed value. -/
theorem get?_ofPairs_map (f : String → α → β) (pairs : List (String × α)) (key : String) :
    (ofPairs (pairs.map fun pair => (pair.1, f pair.1 pair.2))).get? key =
      ((ofPairs pairs).get? key).map (f key) := by
  induction pairs using List.reverseRecOn with
  | nil => rfl
  | append_singleton pairs pair ih =>
    rw [List.map_append, List.map_singleton, ofPairs_concat, ofPairs_concat, get?_insert,
      get?_insert, ih]
    by_cases h : pair.1 = key
    · rw [if_pos h, if_pos h, Option.map_some, h]
    · rw [if_neg h, if_neg h]

/-! ## Positions -/

/-- A key with a position has a value, and its entry stands at the position. -/
theorem getElem?_of_index? {d : Dict α} {key : String} {i : Nat} (h : d.index? key = some i) :
    ∃ value, d.get? key = some value ∧ d[i]? = some (key, value) := by
  induction d generalizing i with
  | nil => cases h
  | cons entry rest ih =>
    obtain ⟨k, v⟩ := entry
    rw [index?] at h
    by_cases hk : k = key
    · rw [if_pos hk] at h
      cases h
      exact ⟨v, by rw [get?, if_pos hk], by rw [hk, List.getElem?_cons_zero]⟩
    · rw [if_neg hk, Option.map_eq_some_iff] at h
      obtain ⟨j, hj, rfl⟩ := h
      obtain ⟨value, hget, hentry⟩ := ih hj
      exact ⟨value, by rw [get?, if_neg hk, hget], hentry⟩

/-- A key with a position has a value, and that value stands at the position. -/
theorem get?_of_index? {d : Dict α} {key : String} {i : Nat} (h : d.index? key = some i) :
    ∃ value, d.get? key = some value ∧ d.values[i]? = some value := by
  obtain ⟨value, hget, hentry⟩ := getElem?_of_index? h
  exact ⟨value, hget, by rw [values, List.getElem?_map, hentry, Option.map_some]⟩

theorem index?_eq_none_iff {d : Dict α} {key : String} : d.index? key = none ↔ key ∉ d.keys := by
  induction d with
  | nil => simp [index?, keys]
  | cons entry rest ih =>
    obtain ⟨k, v⟩ := entry
    by_cases h : k = key
    · simp [index?, keys, h]
    · have h' : ¬key = k := fun e => h e.symm
      simpa [index?, keys, h, h'] using ih

theorem keys_getElem?_of_index? {d : Dict α} {key : String} {i : Nat}
    (h : d.index? key = some i) : d.keys[i]? = some key := by
  obtain ⟨value, -, hentry⟩ := getElem?_of_index? h
  rw [keys, List.getElem?_map, hentry, Option.map_some]

/-- With keys that are all different, the position of a key is where it stands among the keys. -/
theorem index?_eq_some_iff {d : Dict α} (hd : d.keys.Nodup) {key : String} {i : Nat} :
    d.index? key = some i ↔ d.keys[i]? = some key := by
  refine ⟨keys_getElem?_of_index?, fun h => ?_⟩
  cases hindex : d.index? key with
  | none => exact absurd (List.mem_of_getElem? h) (index?_eq_none_iff.mp hindex)
  | some j =>
    have hj : d.keys[j]? = some key := keys_getElem?_of_index? hindex
    have hlt : i < d.keys.length := (List.getElem?_eq_some_iff.mp h).1
    rw [(List.getElem?_inj hlt hd).mp (h.trans hj.symm)]

/-- Where a write puts its entry: at the position of the key, or behind all entries. -/
theorem getD_index?_cons {k key : String} (h : k ≠ key) (v : α) (rest : Dict α) :
    (index? ((k, v) :: rest) key).getD (rest.length + 1) =
      (index? rest key).getD rest.length + 1 := by
  rw [index?, if_neg h]
  cases index? rest key <;> rfl

/-- A write gives its key a position, the one behind all entries if it had none, and moves no other
key. -/
theorem index?_insert (d : Dict α) (key other : String) (value : α) :
    (d.insert key value).index? other =
      if key = other then some ((d.index? key).getD d.length) else d.index? other := by
  induction d with
  | nil => simp [insert, index?]
  | cons entry rest ih =>
    obtain ⟨k, v⟩ := entry
    by_cases hk : k = key
    · subst hk
      by_cases ho : k = other <;> simp [insert, index?, ho]
    · rw [insert, if_neg hk, List.length_cons, getD_index?_cons hk, index?, ih, index?]
      by_cases ho : key = other
      · subst ho
        rw [if_neg hk, if_pos rfl, if_pos rfl, Option.map_some]
      · rw [if_neg ho, if_neg ho]

/-- A write puts its entry at the position of the key and changes nothing at other positions. -/
theorem getElem?_insert (d : Dict α) (key : String) (value : α) (i : Nat) :
    (d.insert key value)[i]? =
      if i = (d.index? key).getD d.length then some (key, value) else d[i]? := by
  induction d generalizing i with
  | nil => cases i <;> simp [insert, index?]
  | cons entry rest ih =>
    obtain ⟨k, v⟩ := entry
    by_cases hk : k = key
    · subst hk
      cases i <;> simp [insert, index?]
    · rw [insert, if_neg hk, List.length_cons, getD_index?_cons hk]
      cases i with
      | zero => simp
      | succ i => simp [ih]

/-- The entries stand in the order of the positions of their keys. -/
theorem pairwise_idxOf {d : Dict α} (hd : d.keys.Nodup) :
    d.Pairwise fun a b => d.keys.idxOf a.1 < d.keys.idxOf b.1 := by
  have hposition : ∀ i (hi : i < d.length), d.keys.idxOf d[i].1 = i := by
    intro i hi
    have hlt : i < d.keys.length := by simpa [keys] using hi
    have hkey : d[i].1 = d.keys[i] := by simp [keys]
    rw [hkey]
    exact hd.idxOf_getElem i hlt
  rw [List.pairwise_iff_getElem]
  intro i j hi hj hij
  rw [hposition i hi, hposition j hj]
  exact hij

end Dict

end CollectionSql
