import CollectionSql.Dict
import CollectionSql.Schema.Scalar

/-!
# Schemas

The collections that a query may name, with their fields and keys, and the lookups that compilation
makes in them. Foreign keys can be followed from both ends: by the collection that owns them, and by
the collection that they point at.
-/

namespace CollectionSql

/-- A field of a collection. -/
structure Field where
  name : String
  type : ScalarType
  nullable : Bool
deriving DecidableEq, Repr

/-- What a foreign key points at. -/
structure ForeignKey where
  collection : String
  column : String
deriving DecidableEq, Repr

/-- A collection of rows, which is a table of the database by the same name. -/
structure Collection where
  name : String
  fields : Dict Field
  primaryKeys : List String
  uniqueKeys : List String
  foreignKeys : Dict ForeignKey
deriving DecidableEq, Repr

namespace Collection

/-- The field with a name. -/
def field (c : Collection) (name : String) : Result Field :=
  match c.fields.get? name with
  | some f => .ok f
  | none => .error (.configuration (.unknownField name c.name))

/-- The names of the fields, in order. -/
def fieldNames (c : Collection) : List String := c.fields.keys

/-- Whether a field is part of the primary key. -/
def isPrimaryKey (c : Collection) (field : String) : Bool := c.primaryKeys.contains field

/-- Whether a field is covered by a unique index. -/
def isUnique (c : Collection) (field : String) : Bool := c.uniqueKeys.contains field

/-- The foreign keys that point at `target`, in order of declaration. -/
def foreignKeysTo (c : Collection) (target : String) : Dict ForeignKey :=
  c.foreignKeys.filter fun key => key.2.collection = target

/-- The first foreign key that points at `target`. -/
def foreignKeyTo (c : Collection) (target : String) : Option (String × ForeignKey) :=
  (c.foreignKeysTo target).head?

end Collection

/-- The collections by name, in order. -/
structure Schema where
  collections : Dict Collection
deriving DecidableEq, Repr

namespace Schema

/-- The collection with a name. -/
def collection (s : Schema) (name : String) : Result Collection :=
  match s.collections.get? name with
  | some c => .ok c
  | none => .error (.configuration (.unknownCollection name))

/-- The foreign key of a field, if it has one. -/
def foreignKey (s : Schema) (collection field : String) : Result (Option ForeignKey) := do
  let c ← s.collection collection
  let _ ← c.field field
  return c.foreignKeys.get? field

/-- The foreign keys of all collections that point at `target`, each with its owner and field. -/
def foreignKeysTargeting (s : Schema) (target : String) :
    List (Collection × String × ForeignKey) :=
  s.collections.values.flatMap fun c => (c.foreignKeysTo target).map fun key => (c, key)

/-- Adds a collection, or replaces the one of its name. -/
def insert (s : Schema) (c : Collection) : Schema := ⟨s.collections.insert c.name c⟩

end Schema

end CollectionSql
