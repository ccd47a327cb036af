import CollectionSql.Text.Space

/-!
# Catalogues

What SQLite reports about a database: its tables with their columns, keys and unique indexes, and
the names of its views. Names are found whatever the case of their ASCII letters, and reported as
they were declared.
-/

namespace CollectionSql.Sqlite

/-- A column of a table. -/
structure ColumnInfo where
  name : String
  /-- The declared type, empty if there is none. -/
  declaration : String
  notNull : Bool
  /-- The position in the primary key, counted from one, and zero outside it. -/
  keyPosition : Nat
deriving DecidableEq, Repr

/-- A foreign key: the table that it leads to, and its columns in order. The column that each of
them leads to is known only if it was declared. -/
structure KeyInfo where
  target : String
  columns : List (String × Option String)
deriving DecidableEq, Repr

/-- A table. Foreign keys and unique indexes are reported newest first. -/
structure TableInfo where
  name : String
  columns : List ColumnInfo
  foreignKeys : List KeyInfo
  uniqueIndexes : List (List String)
deriving DecidableEq, Repr

/-- A database. Tables are in the order of their creation. -/
structure Catalogue where
  tables : List TableInfo
  views : List String
deriving DecidableEq, Repr

/-- The items without repetitions, each at its first place. -/
def distinct {α : Type} [BEq α] (items : List α) : List α :=
  items.foldl (fun seen item => if seen.contains item then seen else seen ++ [item]) []

/-- The first column of the primary key. -/
def TableInfo.keyColumn? (t : TableInfo) : Option String :=
  (t.columns.find? fun c => c.keyPosition == 1).map ColumnInfo.name

namespace Catalogue

/-- The catalogue of a new database. -/
def empty : Catalogue := ⟨[], []⟩

/-- The table with a name. -/
def table? (c : Catalogue) (name : String) : Option TableInfo :=
  c.tables.find? fun t => Text.sameIgnoringCase t.name name

/-- Whether a name can be selected from. -/
def contains (c : Catalogue) (name : String) : Bool :=
  (c.table? name).isSome || c.views.any fun v => Text.sameIgnoringCase v name

end Catalogue

end CollectionSql.Sqlite
