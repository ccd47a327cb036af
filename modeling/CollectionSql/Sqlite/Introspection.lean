import CollectionSql.Schema.Document
import CollectionSql.Schema.Scalar
import CollectionSql.Sqlite.Catalogue

/-!
# Introspection

The config document of an existing database: a collection for every table, with the keys that the
catalogue reports. The tables that SQLite or its host keep for themselves are left out.
-/

namespace CollectionSql.Sqlite

/-- The tables that are not part of the data. -/
def internalTables : List String := ["sqlite_sequence", "sqlite_stat1", "_cf_KV"]

namespace ColumnInfo

/-- Whether a column may be null: not if it is declared otherwise or part of the primary key. -/
def isNullable (c : ColumnInfo) : Bool := !c.notNull && c.keyPosition == 0

/-- The type of a column. -/
def type (c : ColumnInfo) (table : String) : Result ScalarType :=
  (ScalarType.ofDeclaration c.declaration).mapError fun e =>
    e.context (.configuration (.inColumn table c.name)) true

/-- The form of a column's type. -/
def typeJson (c : ColumnInfo) (type : ScalarType) : Json :=
  let named : Json := .object [("type", .string "named"), ("name", .string type.name)]
  if c.isNullable then .object [("type", .string "nullable"), ("underlying_type", named)]
  else named

end ColumnInfo

namespace Catalogue

/-- The column that a foreign key leads to: the declared one, or the first of the target's primary
key. -/
def targetColumn (c : Catalogue) (table column target : String) : Option String → Result String
  | some name => .ok name
  | none =>
    match (c.table? target).bind TableInfo.keyColumn? with
    | some name => .ok name
    | none => .error (.configuration (.noPrimaryKey table column target))

/-- The foreign keys of a table, column by column. Of two keys on a column the later one counts. -/
def foreignKeys (c : Catalogue) (t : TableInfo) : Result (Dict ForeignKeyDetails) := do
  let rows := t.foreignKeys.flatMap fun key => key.columns.map (key.target, ·)
  let entries ← rows.mapM fun (target, column, declared) => do
    return (column, ⟨target, ← c.targetColumn t.name column target declared⟩)
  return Dict.ofPairs entries

/-- The details of a table, and the form of its object type. -/
def describe (c : Catalogue) (t : TableInfo) : Result (FieldDetails × Json) := do
  let types ← t.columns.mapM fun column => (column.type t.name).map (column, ·)
  let foreignKeys ← c.foreignKeys t
  let details : FieldDetails := {
    fieldNames := t.columns.map ColumnInfo.name
    fieldTypes := Dict.ofPairs (types.map fun e => (e.1.name, e.2.name))
    primaryKeys := (t.columns.filter fun c => 0 < c.keyPosition).map ColumnInfo.name
    uniqueKeys := distinct t.uniqueIndexes.flatten
    nullableKeys := (t.columns.filter ColumnInfo.isNullable).map ColumnInfo.name
    foreignKeys }
  let fields := types.map fun e => (e.1.name, Json.object [("type", e.1.typeJson e.2)])
  return (details, .object [("fields", .object (Dict.ofPairs fields))])

/-- The tables with data. -/
def dataTables (c : Catalogue) : List TableInfo :=
  c.tables.filter fun t => !internalTables.contains t.name

/-- The config document of a database. -/
def document (c : Catalogue) : Result Document := do
  let described ← c.dataTables.mapM fun t => (c.describe t).map (t.name, ·)
  return { config := some {
    collectionNames := c.dataTables.map TableInfo.name
    objectTypes := Dict.ofPairs (described.map fun e => (e.1, e.2.2))
    objectFields := Dict.ofPairs (described.map fun e => (e.1, e.2.1)) } }

end Catalogue

end CollectionSql.Sqlite
