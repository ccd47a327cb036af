import CollectionSql.Sqlite.Catalogue

/-!
# Definitions

Tables, indexes and views as they are declared, and the catalogue that results. Constraints make
unique indexes in the order in which they are declared: those of the columns first, then those of
the table. Two constraints on the same columns share an index, and the key of a table by row number
needs none.
-/

namespace CollectionSql.Sqlite

/-- The target of a foreign key. Without columns it means the target's primary key. -/
structure Reference where
  table : String
  columns : List String
deriving DecidableEq, Repr

/-- The declaration of a column. -/
structure ColumnDefinition where
  name : String
  declaration : String
  primaryKey : Bool
  autoincrement : Bool
  notNull : Bool
  unique : Bool
  reference : Option Reference
deriving DecidableEq, Repr

/-- The declaration of a table. -/
structure TableDefinition where
  name : String
  columns : List ColumnDefinition
  primaryKey : List String
  unique : List (List String)
  foreignKeys : List (List String × Reference)
  withoutRowid : Bool
deriving DecidableEq, Repr

/-- The declaration of an index. -/
structure IndexDefinition where
  table : String
  columns : List String
  unique : Bool
deriving DecidableEq, Repr

/-- Declarations in the order in which they are carried out: tables to drop, then tables, indexes
and views to create. -/
structure Definition where
  dropped : List String
  tables : List TableDefinition
  indexes : List IndexDefinition
  views : List String
deriving DecidableEq, Repr

/-! ## Declared types -/

/-- What SQL counts as blank. -/
def isBlank (c : Char) : Bool :=
  c == ' ' || c == '\t' || c == '\n' || c == '\r' || c == '\x0c'

/-- A character that opens a quoted name. -/
def isQuote (c : Char) : Bool := c == '\x22' || c == '\x27' || c == '\x60' || c == '['

/-- A quoted word without its quotes. A word with quotes inside stays as it is. -/
def unquoted (cs : List Char) : List Char :=
  match cs with
  | first :: rest =>
    if isQuote first && rest != [] && !rest.dropLast.any isQuote then rest.dropLast else cs
  | [] => []

/-- The type that is reported for a declaration. -/
def reportedType (declaration : String) : String :=
  let cs := declaration.toList.dropWhile isBlank
  String.ofList (unquoted (cs.reverse.dropWhile isBlank).reverse)

/-! ## Tables -/

namespace TableDefinition

/-- A name as the table declares it. -/
def columnName (t : TableDefinition) (name : String) : String :=
  match t.columns.find? fun c => Text.sameIgnoringCase c.name name with
  | some c => c.name
  | none => name

/-- The columns of the primary key, in key order. -/
def keyColumns (t : TableDefinition) : List String :=
  if t.primaryKey = [] then (t.columns.filter ColumnDefinition.primaryKey).map ColumnDefinition.name
  else t.primaryKey.map t.columnName

/-- Whether a single column of type INTEGER is the primary key. It then stands for the row
number. -/
def hasRowNumberKey (t : TableDefinition) : Bool :=
  match t.keyColumns with
  | [key] => t.columns.any fun c =>
    c.name == key && Text.sameIgnoringCase (reportedType c.declaration) "INTEGER"
  | _ => false

/-- The constraints that call for a unique index, in order. In a table without row numbers the index
of such a key is made last. -/
def uniqueConstraints (t : TableDefinition) : List (List String) :=
  let ofColumns := t.columns.flatMap fun c =>
    (if c.primaryKey && !t.hasRowNumberKey then [[c.name]] else []) ++
    (if c.unique then [[c.name]] else [])
  let ofKey :=
    if t.primaryKey ≠ [] && !t.hasRowNumberKey then [t.keyColumns] else []
  let ofTable := t.unique.map fun columns => columns.map t.columnName
  let last := if t.withoutRowid && t.hasRowNumberKey then [t.keyColumns] else []
  ofColumns ++ ofKey ++ ofTable ++ last

/-- A foreign key as it is reported. -/
def keyInfo (t : TableDefinition) (columns : List String) (r : Reference) : KeyInfo :=
  let columns := columns.map t.columnName
  ⟨r.table,
    if r.columns = [] then columns.map (·, none) else columns.zip (r.columns.map some)⟩

/-- The foreign keys in the order of their declaration. -/
def keys (t : TableDefinition) : List KeyInfo :=
  (t.columns.filterMap fun c => c.reference.map (t.keyInfo [c.name])) ++
    t.foreignKeys.map fun key => t.keyInfo key.1 key.2

/-- The table as the catalogue reports it. -/
def info (t : TableDefinition) : TableInfo where
  name := t.name
  columns := t.columns.map fun c => {
    name := c.name
    declaration := reportedType c.declaration
    notNull := c.notNull
    keyPosition := match t.keyColumns.idxOf? c.name with
      | some i => i + 1
      | none => 0 }
  foreignKeys := t.keys.reverse
  uniqueIndexes := (distinct t.uniqueConstraints).reverse

end TableDefinition

/-! ## Databases -/

/-- The table in which SQLite keeps the last number of every table that counts its rows. -/
def sequenceTable : TableInfo :=
  ⟨"sqlite_sequence", [⟨"name", "", false, 0⟩, ⟨"seq", "", false, 0⟩], [], []⟩

namespace Catalogue

/-- Drops a table. -/
def drop (c : Catalogue) (name : String) : Catalogue :=
  { c with tables := c.tables.filter fun t => !Text.sameIgnoringCase t.name name }

/-- Creates a table. The first that counts its rows brings the table of their numbers. -/
def create (c : Catalogue) (t : TableDefinition) : Catalogue :=
  let counts := t.columns.any ColumnDefinition.autoincrement &&
    (c.table? sequenceTable.name).isNone
  { c with tables := c.tables ++ t.info :: (if counts then [sequenceTable] else []) }

/-- Creates an index. -/
def createIndex (c : Catalogue) (i : IndexDefinition) : Catalogue :=
  if i.unique then
    { c with tables := c.tables.map fun t =>
        if Text.sameIgnoringCase t.name i.table then
          { t with uniqueIndexes := i.columns.map (columnName t) :: t.uniqueIndexes }
        else t }
  else c
where
  /-- A name as the table reports it. -/
  columnName (t : TableInfo) (name : String) : String :=
    match t.columns.find? fun c => Text.sameIgnoringCase c.name name with
    | some c => c.name
    | none => name

/-- Carries out declarations. -/
def extend (c : Catalogue) (d : Definition) : Catalogue :=
  let c := d.dropped.foldl drop c
  let c := d.tables.foldl create c
  let c := d.indexes.foldl createIndex c
  { c with views := c.views ++ d.views }

end Catalogue

end CollectionSql.Sqlite
