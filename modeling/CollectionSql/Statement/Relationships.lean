import CollectionSql.Dict
import CollectionSql.Direction
import CollectionSql.Error

/-!
# Relationship tables

The relationships that a statement may follow. A statement refers to them by handle: the position in
the table, which is the order in which names were first declared. Declaring a name again replaces
its entry and keeps its handle.
-/

namespace CollectionSql

/-- A relationship: the pairs of fields of the two sides that must be equal, in order, and the
collection that it leads to. -/
structure Relationship where
  name : String
  targetCollection : String
  columnMapping : List (String × String)
  cardinality : Cardinality
deriving DecidableEq, Repr

/-- A handle to a relationship: its position in the table. -/
structure RelationshipId where
  index : Nat
deriving DecidableEq, Repr

/-- The relationships of a statement by name, in order of declaration. -/
structure Relationships where
  entries : Dict Relationship
deriving DecidableEq, Repr

namespace Relationships

/-- No relationships. -/
def empty : Relationships := ⟨[]⟩

/-- The table with a relationship declared, and its handle. -/
def insert (t : Relationships) (r : Relationship) : Relationships × RelationshipId :=
  (⟨t.entries.insert r.name r⟩, ⟨(t.entries.index? r.name).getD t.entries.length⟩)

/-- The handle of a name. -/
def resolve (t : Relationships) (name : String) : Result RelationshipId :=
  match t.entries.index? name with
  | some i => .ok ⟨i⟩
  | none => .error (.of (.unresolvableRelationship name .undeclared))

/-- The relationship behind a handle. -/
def get? (t : Relationships) (id : RelationshipId) : Option Relationship :=
  (t.entries.values)[id.index]?

/-- The relationship behind a handle. A statement made from a request holds valid handles only. -/
def get (t : Relationships) (id : RelationshipId) : Result Relationship :=
  match t.get? id with
  | some r => .ok r
  | none => .error (.of (.unresolvableRelationship "" .unknownHandle))

/-- The number of relationships. -/
def size (t : Relationships) : Nat := t.entries.length

/-- Whether there are none. -/
def isEmpty (t : Relationships) : Bool := t.entries.isEmpty

end Relationships

end CollectionSql
