import CollectionSql.FileSystem.Fault
import CollectionSql.Sqlite.Database
import CollectionSql.Sqlite.Definition
import CollectionSql.Text.Utf8

/-!
# The content of files

A file holds a text, or bytes that need not be one. A database is a file whose content is known by
its catalogue.
-/

namespace CollectionSql

/-- What a file holds. -/
inductive FileContent where
  | text (text : String)
  /-- Bytes that need not be a text. -/
  | bytes (bytes : List UInt8)
  | database (catalogue : Sqlite.Catalogue)
deriving DecidableEq

namespace FileContent

/-- The text that a content is. The bytes of a database with tables are none. -/
def text? : FileContent → Except FileFault String
  | .text s => .ok s
  | .bytes bs =>
    match Text.ofUtf8? bs with
    | some s => .ok s
    | none => .error .notUtf8
  | .database _ => .error .notUtf8

/-- The catalogue of a content of a size that is not known to be a database. One byte counts as
none. -/
def catalogueOfSize (size : Nat) : Except Failure Sqlite.Catalogue :=
  if size ≤ 1 then .ok .empty else .error Sqlite.notDatabase

/-- The catalogue of a content that is used as a database. -/
def catalogue : FileContent → Except Failure Sqlite.Catalogue
  | .text s => catalogueOfSize s.utf8ByteSize
  | .bytes bs => catalogueOfSize bs.length
  | .database c => .ok c

end FileContent

end CollectionSql
