import Mathlib.Data.Finset.Card
import CollectionSql.Proofs.LoweringFaults

/-!
# Handles do not move

A statement keeps handles and not names, so a handle that has been given out must go on to lead to
what it was given out for, whatever is declared later. Here is what a table looks like after any
sequence of declarations, in which names may be declared again in any order.

One declaration is described by what it does to the two ways into the table: to names
(`resolve_insert`) and to handles (`get?_insert`). It changes the handle of no name that had one,
and the entry behind one handle only, its own. Both carry over to many declarations by induction on
those that come later.

Results:
* `resolve_insertAll`, `get?_insertAll`: what later declarations leave as it is.
* `resolve_insertAll_returned`: every declaration of a name returns the handle that the name has in
  the end.
* `Records`: what a sequence of declarations says about the table and the handles returned.
* `insertAll_empty_records`: the table of any sequence, and that it is stable.
-/

namespace CollectionSql.Relationships

/-! ## Declarations in sequence -/

/-- The table after relationships were declared one after the other, and the handle that each
declaration returned. -/
def insertAll (t : Relationships) : List Relationship → Relationships × List RelationshipId
  | [] => (t, [])
  | r :: rs => (((t.insert r).1.insertAll rs).1, (t.insert r).2 :: ((t.insert r).1.insertAll rs).2)

/-- What the declarations `log` say about a table `t` and the handles `ids` that they returned. -/
structure Records (log : List Relationship) (t : Relationships) (ids : List RelationshipId) :
    Prop where
  /-- There are as many entries as different names. -/
  size_eq : t.size = (log.map Relationship.name).toFinset.card
  /-- The handles of names are exactly the numbers below that. -/
  lt_size_iff : ∀ id : RelationshipId, id.index < t.size ↔ ∃ name, t.resolve name = .ok id
  /-- The handle of a name is the number of different names before its first declaration. -/
  resolve_first : ∀ before r after, log = before ++ r :: after →
    r.name ∉ before.map Relationship.name →
      t.resolve r.name = .ok ⟨(before.map Relationship.name).toFinset.card⟩
  /-- A name has a handle iff it was declared, -/
  resolve_succeeds_iff : ∀ name,
    (∃ id, t.resolve name = .ok id) ↔ name ∈ log.map Relationship.name
  /-- and every declaration of it has returned that handle. -/
  returned : List.Forall₂ (fun r id => t.resolve r.name = .ok id) log ids
  /-- Behind the handle of a name is what was last declared under the name. -/
  get_last : ∀ before r after, log = before ++ r :: after →
    r.name ∉ after.map Relationship.name → ∃ id, t.resolve r.name = .ok id ∧ t.get id = .ok r

/-! ## One declaration -/

section

variable {t : Relationships} {name : String} {id : RelationshipId}

theorem resolve_insert (t : Relationships) (r : Relationship) (name : String) :
    (t.insert r).1.resolve name = if r.name = name then .ok (t.insert r).2 else t.resolve name := by
  simp only [resolve, insert, Dict.index?_insert]
  by_cases h : r.name = name
  · rw [if_pos h, if_pos h]
  · rw [if_neg h, if_neg h]

theorem resolve_insert_self (t : Relationships) (r : Relationship) :
    (t.insert r).1.resolve r.name = .ok (t.insert r).2 := by
  rw [resolve_insert, if_pos rfl]

theorem get?_insert (t : Relationships) (r : Relationship) (id : RelationshipId) :
    (t.insert r).1.get? id = if id = (t.insert r).2 then some r else t.get? id := by
  obtain ⟨i⟩ := id
  simp only [get?, insert, Dict.values, List.getElem?_map, Dict.getElem?_insert,
    RelationshipId.mk.injEq]
  split <;> rfl

/-- A name that has no handle gets the next number. -/
theorem insert_of_not_mem {r : Relationship} (h : r.name ∉ t.entries.keys) :
    (t.insert r).2 = ⟨t.size⟩ := by
  rw [insert, Dict.index?_eq_none_iff.mpr h, Option.getD_none, size]

/-- A name that has a handle keeps it when it is declared again. -/
theorem insert_of_resolve {r : Relationship} (h : t.resolve r.name = .ok id) :
    (t.insert r).2 = id := by
  rw [insert, resolve_eq_ok_iff.mp h, Option.getD_some]

theorem lt_size_of_resolve (h : t.resolve name = .ok id) : id.index < t.size := by
  obtain ⟨r, -, hentry⟩ := Dict.getElem?_of_index? (resolve_eq_ok_iff.mp h)
  exact (List.getElem?_eq_some_iff.mp hentry).1

/-- At the handle of a name stands that name. -/
theorem keys_getElem?_of_resolve (h : t.resolve name = .ok id) :
    t.entries.keys[id.index]? = some name :=
  Dict.keys_getElem?_of_index? (resolve_eq_ok_iff.mp h)

theorem resolve_insert_of_resolve (h : t.resolve name = .ok id) (r : Relationship) :
    (t.insert r).1.resolve name = .ok id := by
  rw [resolve_insert]
  split
  · next hname =>
    subst hname
    rw [insert_of_resolve h]
  · exact h

/-- A declaration never returns the handle of another name. -/
theorem ne_insert_of_resolve (h : t.resolve name = .ok id) {r : Relationship}
    (hname : r.name ≠ name) : id ≠ (t.insert r).2 := by
  rintro rfl
  -- the declared name gets the number behind all handles, or keeps one with its own name there
  cases hr : t.resolve r.name with
  | error e =>
    have hlt := lt_size_of_resolve h
    rw [insert_of_not_mem (resolve_eq_error_iff.mp hr).1] at hlt
    exact Nat.lt_irrefl _ hlt
  | ok own =>
    have hkey := keys_getElem?_of_resolve h
    rw [insert_of_resolve hr, keys_getElem?_of_resolve hr] at hkey
    exact hname (Option.some.inj hkey)

/-! ## Many declarations -/

theorem insertAll_append (t : Relationships) (xs ys : List Relationship) :
    (t.insertAll (xs ++ ys)).1 = ((t.insertAll xs).1.insertAll ys).1 := by
  induction xs generalizing t with
  | nil => rfl
  | cons x xs ih => exact ih (t.insert x).1

/-- Later declarations leave every name its handle. -/
theorem resolve_insertAll (h : t.resolve name = .ok id) (later : List Relationship) :
    (t.insertAll later).1.resolve name = .ok id := by
  induction later generalizing t with
  | nil => exact h
  | cons r later ih => exact ih (resolve_insert_of_resolve h r)

/-- Later declarations of other names leave the entry behind a handle as it is. -/
theorem get?_insertAll (h : t.resolve name = .ok id) {later : List Relationship}
    (hname : name ∉ later.map Relationship.name) : (t.insertAll later).1.get? id = t.get? id := by
  induction later generalizing t with
  | nil => rfl
  | cons r later ih =>
    rw [List.map_cons, List.mem_cons, not_or] at hname
    obtain ⟨hr, hlater⟩ := hname
    calc ((t.insert r).1.insertAll later).1.get? id
        = (t.insert r).1.get? id := ih (resolve_insert_of_resolve h r) hlater
      _ = t.get? id := by rw [get?_insert, if_neg (ne_insert_of_resolve h (Ne.symm hr))]

/-- Every declaration of a name returns the handle that the name has in the end. -/
theorem resolve_insertAll_returned (t : Relationships) (log : List Relationship) :
    List.Forall₂ (fun r id => (t.insertAll log).1.resolve r.name = .ok id) log
      (t.insertAll log).2 := by
  induction log generalizing t with
  | nil => exact .nil
  | cons r log ih =>
    exact .cons (resolve_insertAll (resolve_insert_self t r) log) (ih (t.insert r).1)

/-- What is declared under a name is behind its handle until the name is declared again. -/
theorem get?_insertAll_cons (t : Relationships) {r : Relationship} {later : List Relationship}
    (hr : r.name ∉ later.map Relationship.name) :
    (t.insertAll (r :: later)).1.resolve r.name = .ok (t.insert r).2 ∧
      (t.insertAll (r :: later)).1.get? (t.insert r).2 = some r := by
  have hown := resolve_insert_self t r
  refine ⟨resolve_insertAll hown later, ?_⟩
  calc (t.insertAll (r :: later)).1.get? (t.insert r).2
      = (t.insert r).1.get? (t.insert r).2 := get?_insertAll hown hr
    _ = some r := by rw [get?_insert, if_pos rfl]

end

/-! ## From the empty table -/

/-- A table that is made by declarations is the dictionary of what they declare. -/
theorem entries_insertAll (log : List Relationship) :
    (empty.insertAll log).1.entries = Dict.ofPairs (log.map fun r => (r.name, r)) := by
  induction log using List.reverseRecOn with
  | nil => rfl
  | append_singleton log r ih =>
    rw [insertAll_append, List.map_append, List.map_singleton, Dict.ofPairs_concat, ← ih]
    rfl

theorem keys_insertAll (log : List Relationship) :
    (empty.insertAll log).1.entries.keys = (log.map Relationship.name).eraseDups := by
  rw [entries_insertAll, Dict.keys_ofPairs, List.map_map]
  rfl

theorem size_insertAll (log : List Relationship) :
    (empty.insertAll log).1.size = (log.map Relationship.name).toFinset.card := by
  have hsize : (empty.insertAll log).1.size = (log.map Relationship.name).eraseDups.length := by
    rw [← keys_insertAll, Dict.keys, List.length_map, size]
  rw [hsize, ← List.toFinset_card_of_nodup (nodup_eraseDups _)]
  congr 1
  ext name
  rw [List.mem_toFinset, List.mem_toFinset, List.mem_eraseDups]

theorem resolve_insertAll_succeeds_iff (log : List Relationship) (name : String) :
    (∃ id, (empty.insertAll log).1.resolve name = .ok id) ↔ name ∈ log.map Relationship.name := by
  rw [← List.mem_eraseDups, ← keys_insertAll]
  cases h : (empty.insertAll log).1.resolve name with
  | error e => simp [(resolve_eq_error_iff.mp h).1]
  | ok id => simp [List.mem_of_getElem? (keys_getElem?_of_resolve h)]

/-- Every number below the size is the handle of a name. -/
theorem exists_resolve_of_lt_size (log : List Relationship) {id : RelationshipId}
    (h : id.index < (empty.insertAll log).1.size) :
    ∃ name, (empty.insertAll log).1.resolve name = .ok id := by
  have hnodup : (empty.insertAll log).1.entries.keys.Nodup := by
    rw [keys_insertAll]
    exact nodup_eraseDups _
  have hlt : id.index < (empty.insertAll log).1.entries.keys.length := by
    rwa [Dict.keys, List.length_map]
  have hkey := List.getElem?_eq_getElem hlt
  exact ⟨_, resolve_eq_ok_iff.mpr ((Dict.index?_eq_some_iff hnodup).mpr hkey)⟩

/-- **Main theorem.** After any sequence of declarations the table has one entry for each name,
under the handle that every declaration of the name returned. The handles are numbered without gaps,
by the first declarations of their names, and behind each is the last declaration. Whatever is
declared later, the handles stay, and so do the entries behind those whose names are not declared
again. -/
theorem insertAll_empty_records (log later : List Relationship) :
    Records log (empty.insertAll log).1 (empty.insertAll log).2 ∧
    ∀ name id, (empty.insertAll log).1.resolve name = .ok id →
      (empty.insertAll (log ++ later)).1.resolve name = .ok id ∧
      (name ∉ later.map Relationship.name →
        (empty.insertAll (log ++ later)).1.get id = (empty.insertAll log).1.get id) := by
  refine ⟨?_, fun name id h => ?_⟩
  · constructor
    case size_eq => exact size_insertAll log
    case lt_size_iff =>
      intro id
      refine ⟨exists_resolve_of_lt_size log, ?_⟩
      rintro ⟨name, h⟩
      exact lt_size_of_resolve h
    case resolve_first =>
      rintro before r after rfl hr
      have hkey : r.name ∉ (empty.insertAll before).1.entries.keys := by
        rwa [keys_insertAll, List.mem_eraseDups]
      rw [insertAll_append, ← size_insertAll, ← insert_of_not_mem hkey]
      exact resolve_insertAll (resolve_insert_self _ r) after
    case resolve_succeeds_iff => exact resolve_insertAll_succeeds_iff log
    case returned => exact resolve_insertAll_returned empty log
    case get_last =>
      rintro before r after rfl hr
      obtain ⟨hresolve, hget⟩ := get?_insertAll_cons (empty.insertAll before).1 hr
      rw [insertAll_append]
      exact ⟨_, hresolve, by rw [get, hget]⟩
  · rw [insertAll_append]
    exact ⟨resolve_insertAll h later, fun hname => by rw [get, get, get?_insertAll h hname]⟩

/-- The buyer of an order, its lines, and its buyer again, in another collection. -/
def buyerTwice : List Relationship :=
  [⟨"buyer", "users", [("user_id", "id")], .object⟩,
    ⟨"lines", "items", [("id", "order_id")], .array⟩,
    ⟨"buyer", "people", [("buyer_id", "id")], .object⟩]

/-- The lines of an order, in another collection. -/
def otherLines : Relationship := ⟨"lines", "rows", [], .array⟩

theorem buyerTwice_records :
    Records buyerTwice (empty.insertAll buyerTwice).1 [⟨0⟩, ⟨1⟩, ⟨0⟩] ∧
    (empty.insertAll buyerTwice).1.resolve "buyer" = .ok ⟨0⟩ ∧
    "buyer" ∉ [otherLines].map Relationship.name ∧
    (empty.insertAll (buyerTwice ++ [otherLines])).1.resolve "buyer" = .ok ⟨0⟩ ∧
    (empty.insertAll (buyerTwice ++ [otherLines])).1.get ⟨0⟩ =
      .ok ⟨"buyer", "people", [("buyer_id", "id")], .object⟩ := by
  have hbuyer : (empty.insertAll buyerTwice).1.resolve "buyer" = .ok ⟨0⟩ := rfl
  have hother : "buyer" ∉ [otherLines].map Relationship.name := by decide
  obtain ⟨hrecords, hkept⟩ := insertAll_empty_records buyerTwice [otherLines]
  obtain ⟨hresolve, hget⟩ := hkept "buyer" ⟨0⟩ hbuyer
  exact ⟨hrecords, hbuyer, hother, hresolve, hget hother⟩

end CollectionSql.Relationships
