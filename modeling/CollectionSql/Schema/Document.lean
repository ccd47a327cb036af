import CollectionSql.Error
import CollectionSql.Json.Printer
import CollectionSql.Json.Reader

/-!
# Config documents

The document that describes a database: its collections, their fields and their keys. Reading
accepts every spelling of the format; writing has one.
-/

namespace CollectionSql

open Json (Reader Record)

/-- What a document says a foreign key points at. -/
structure ForeignKeyDetails where
  table : String
  column : String
deriving DecidableEq, Repr

/-- What a document says about a collection. -/
structure FieldDetails where
  fieldNames : List String
  fieldTypes : Dict String
  primaryKeys : List String
  uniqueKeys : List String
  nullableKeys : List String
  foreignKeys : Dict ForeignKeyDetails
deriving DecidableEq, Repr

/-- What a document says about a database. The object types are carried along and never looked
at. -/
structure Configuration where
  collectionNames : List String
  objectTypes : Dict Json
  objectFields : Dict FieldDetails
deriving DecidableEq

/-- A config document, which may still be without a configuration. -/
structure Document where
  config : Option Configuration
deriving DecidableEq

/-! ## Reading -/

/-- Reads what a foreign key points at. -/
def ForeignKeyDetails.reader : Reader ForeignKeyDetails := fun mode t => do
  let r ← Record.reader ["table", "column"] mode t
  return {
    table := ← r.required "table" Reader.string
    column := ← r.required "column" Reader.string }

/-- Reads the details of a collection. -/
def FieldDetails.reader : Reader FieldDetails := fun mode t => do
  let r ← Record.reader
    ["field_names", "field_types", "primary_keys", "unique_keys", "nullable_keys", "foreign_keys"]
    mode t
  return {
    fieldNames := ← r.required "field_names" (.list .string)
    fieldTypes := ← r.required "field_types" (.dict .string)
    primaryKeys := ← r.withDefault "primary_keys" (.list .string) []
    uniqueKeys := ← r.withDefault "unique_keys" (.list .string) []
    nullableKeys := ← r.withDefault "nullable_keys" (.list .string) []
    foreignKeys := ← r.withDefault "foreign_keys" (.dict ForeignKeyDetails.reader) [] }

/-- Reads a configuration. -/
def Configuration.reader : Reader Configuration := fun mode t => do
  let r ← Record.reader ["collection_names", "object_types", "object_fields"] mode t
  return {
    collectionNames := ← r.required "collection_names" (.list .string)
    objectTypes := ← r.withDefault "object_types" (.dict .json) []
    objectFields := ← r.required "object_fields" (.dict FieldDetails.reader) }

/-- Reads a document. -/
def Document.reader : Reader Document := fun mode t => do
  let r ← Record.reader ["config"] mode t
  return { config := ← r.optional "config" Configuration.reader }

/-- The document that a text holds. -/
def Document.parse (text : String) : Result Document :=
  match Document.reader.parse? text with
  | some d => .ok d
  | none => .error (.configuration .malformedDocument)

/-! ## Writing -/

/-- A list of strings. -/
def Json.ofStrings (items : List String) : Json := .array (items.map .string)

/-- A dictionary of strings. -/
def Json.ofStringDict (entries : Dict String) : Json :=
  .object (entries.map fun e => (e.1, .string e.2))

/-- The form of a foreign key's target. -/
def ForeignKeyDetails.toJson (d : ForeignKeyDetails) : Json :=
  .object [("table", .string d.table), ("column", .string d.column)]

/-- The form of a collection's details. -/
def FieldDetails.toJson (d : FieldDetails) : Json :=
  .object [
    ("field_names", .ofStrings d.fieldNames),
    ("field_types", .ofStringDict d.fieldTypes),
    ("primary_keys", .ofStrings d.primaryKeys),
    ("unique_keys", .ofStrings d.uniqueKeys),
    ("nullable_keys", .ofStrings d.nullableKeys),
    ("foreign_keys", .object (d.foreignKeys.map fun e => (e.1, e.2.toJson)))]

/-- The form of a configuration. Object types are left out when there are none. -/
def Configuration.toJson (c : Configuration) : Json :=
  .object (
    [("collection_names", .ofStrings c.collectionNames)] ++
    (if c.objectTypes = [] then [] else [("object_types", .object c.objectTypes)]) ++
    [("object_fields", .object (c.objectFields.map fun e => (e.1, e.2.toJson)))])

/-- The form of a document. -/
def Document.toJson (d : Document) : Json :=
  .object (match d.config with
    | none => []
    | some c => [("config", c.toJson)])

/-- The text of a document. -/
def Document.text (d : Document) : String := d.toJson.pretty

end CollectionSql
