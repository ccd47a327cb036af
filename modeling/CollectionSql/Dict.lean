/-!
# Ordered dictionaries

A dictionary is the list of its entries, in the order in which their keys first came. Writing a key
that is present replaces its value and keeps its place, so a document with a repeated key reads as
the last value at the first position.

Results: `keys_insert`, what a write does to the keys, and `get?_insert`, what it does to a lookup.
-/

namespace CollectionSql

universe u v

/-- Entries by name, in the order of first appearance. -/
abbrev Dict (α : Type u) := List (String × α)

namespace Dict

variable {α : Type u} {β : Type v}

/-- The value stored under `key`. -/
def get? : Dict α → String → Option α
  | [], _ => none
  | (k, v) :: rest, key => if k = key then some v else get? rest key

/-- Whether `key` has a value. -/
def contains (d : Dict α) (key : String) : Bool := (d.get? key).isSome

/-- The names of the entries, in order. -/
def keys (d : Dict α) : List String := d.map Prod.fst

/-- The values of the entries, in order. -/
def values (d : Dict α) : List α := d.map Prod.snd

/-- Stores `value` under `key`: in place if the key is there, at the end if not. -/
def insert : Dict α → String → α → Dict α
  | [], key, value => [(key, value)]
  | (k, v) :: rest, key, value =>
    if k = key then (k, value) :: rest else (k, v) :: insert rest key value

/-- The position of `key`. -/
def index? : Dict α → String → Option Nat
  | [], _ => none
  | (k, _) :: rest, key => if k = key then some 0 else (index? rest key).map (· + 1)

/-- The dictionary that results from writing the pairs one after the other. -/
def ofPairs (pairs : List (String × α)) : Dict α :=
  pairs.foldl (fun d entry => d.insert entry.1 entry.2) []

/-- A write adds the key at the end unless it is already there. -/
theorem keys_insert (d : Dict α) (key : String) (value : α) :
    (d.insert key value).keys = if key ∈ d.keys then d.keys else d.keys ++ [key] := by
  induction d with
  | nil => simp [insert, keys]
  | cons entry rest ih =>
    obtain ⟨k, v⟩ := entry
    by_cases h : k = key
    · simp [insert, keys, h]
    · have h' : ¬key = k := fun e => h e.symm
      simp only [keys] at ih
      by_cases hm : key ∈ rest.map Prod.fst <;> simp_all [insert, keys]

/-- After a write the written key has the new value and every other key its old one. -/
theorem get?_insert (d : Dict α) (key other : String) (value : α) :
    (d.insert key value).get? other = if key = other then some value else d.get? other := by
  induction d with
  | nil => simp [insert, get?]
  | cons entry rest ih =>
    obtain ⟨k, v⟩ := entry
    by_cases h : k = key
    · by_cases ho : key = other <;> simp_all [insert, get?]
    · by_cases ho : k = other
      · subst ho
        have : ¬key = k := fun e => h e.symm
        simp [insert, get?, h, this]
      · simp [insert, get?, h, ho, ih]

end Dict

end CollectionSql
