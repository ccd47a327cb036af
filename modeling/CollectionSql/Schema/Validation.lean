import CollectionSql.Schema.Basic
import CollectionSql.Schema.Document

/-!
# From documents to schemas

A document becomes a schema only if it is consistent. The checks are made in a fixed order, and the
first that fails is the error. Foreign keys are followed once every collection is known, so that a
collection may refer to one that comes later, or to itself.
-/

namespace CollectionSql

/-- Fails with a fault about the first item that does not pass. -/
def checkAll {α : Type} (items : List α) (passes : α → Bool) (fault : α → ConfigurationFault) :
    Result Unit :=
  match items.find? fun item => !passes item with
  | none => .ok ()
  | some item => .error (.configuration (fault item))

namespace FieldDetails

/-- Whether a name is that of a field. -/
def isField (d : FieldDetails) (name : String) : Bool := d.fieldNames.contains name

/-- Only fields have types and keys, and no part of the primary key may be null. -/
def checkKeys (d : FieldDetails) (name : String) : Result Unit := do
  checkAll d.fieldTypes.keys d.isField (.typeForUnknownField name)
  checkAll d.primaryKeys d.isField (.keyNotField .primary name)
  checkAll d.uniqueKeys d.isField (.keyNotField .unique name)
  checkAll d.nullableKeys d.isField (.keyNotField .nullable name)
  checkAll d.primaryKeys (fun key => !d.nullableKeys.contains key) (.nullablePrimaryKey name)

/-- A field with its type. -/
def field (d : FieldDetails) (collection name : String) : Result Field := do
  let some type := d.fieldTypes.get? name
    | throw (.configuration (.fieldWithoutType collection name))
  return {
    name
    type := ← ScalarType.ofName type
    nullable := d.nullableKeys.contains name }

/-- The collection that the details describe. -/
def collection (d : FieldDetails) (name : String) : Result Collection := do
  d.checkKeys name
  let fields ← d.fieldNames.mapM fun f => (d.field name f).map (f, ·)
  checkAll d.foreignKeys.keys d.isField (.foreignKeyNotField name)
  return {
    name
    fields := Dict.ofPairs fields
    primaryKeys := d.primaryKeys
    uniqueKeys := d.uniqueKeys
    foreignKeys := d.foreignKeys.map fun key => (key.1, ⟨key.2.table, key.2.column⟩) }

end FieldDetails

namespace Schema

/-- The collection with a name, from the details that the configuration has for it. -/
def collectionOf (config : Configuration) (name : String) : Result Collection :=
  match config.objectFields.get? name with
  | none => .error (.configuration (.noFieldDetails name))
  | some details => details.collection name

/-- A foreign key must lead to a field of a collection. -/
def checkForeignKey (s : Schema) (c : Collection) (field : String) (key : ForeignKey) :
    Result Unit := do
  let some target := s.collections.get? key.collection
    | throw (.configuration (.foreignKeyTarget c.name field key.collection))
  let _ ← target.field key.column

/-- Every foreign key must lead to a field of a collection. -/
def checkForeignKeys (s : Schema) : Result Unit :=
  s.collections.values.forM fun c => c.foreignKeys.forM fun key => s.checkForeignKey c key.1 key.2

/-- The schema that a document describes. -/
def ofDocument (d : Document) : Result Schema := do
  let some config := d.config | throw (.configuration .notConfigured)
  let collections ← config.collectionNames.mapM (collectionOf config)
  let schema := collections.foldl insert ⟨[]⟩
  schema.checkForeignKeys
  return schema

/-- The schema that the text of a document describes. -/
def parse (text : String) : Result Schema := do
  ofDocument (← Document.parse text)

end Schema

end CollectionSql
