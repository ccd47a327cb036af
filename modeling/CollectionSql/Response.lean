import CollectionSql.Error
import CollectionSql.Json.Printer
import CollectionSql.Json.Reader

/-!
# Responses and row sets

An executor answers a plan with rows. A compiled plan always returns its whole result as one JSON
document, so the answer must be one row with one column that holds such a document: as text, or as
an object if the executor has already decoded it.
-/

namespace CollectionSql

/-- One result row: values by column, in column order. -/
abbrev Row := Dict Json

/-- The rows that an executor returned. -/
structure Response where
  rows : List Row
deriving DecidableEq

/-- The result of one plan. -/
structure RowSet where
  aggregates : Option Row
  rows : Option (List Row)
deriving DecidableEq

namespace RowSet

/-- Reads a row set. -/
def reader : Json.Reader RowSet := fun mode t => do
  let r ← Json.Record.reader ["aggregates", "rows"] mode t
  return {
    aggregates := ← r.optional "aggregates" (.dict .json)
    rows := ← r.optional "rows" (.list (.dict .json)) }

/-- The form of a row set. Parts that are absent are left out. -/
def toJson (s : RowSet) : Json :=
  .object (
    (match s.aggregates with
      | none => []
      | some row => [("aggregates", .object row)]) ++
    (match s.rows with
      | none => []
      | some rows => [("rows", .array (rows.map .object))]))

/-- The number of rows. -/
def count (s : RowSet) : Nat := (s.rows.getD []).length

end RowSet

namespace Response

/-- No rows. -/
def empty : Response := ⟨[]⟩

/-- One row with one column. -/
def single (column : String) (value : Json) : Response := ⟨[[(column, value)]]⟩

/-- Reads rows. -/
def reader : Json.Reader Response := fun mode t =>
  (Json.Reader.list (.dict .json) mode t).map Response.mk

/-- The only value of the only row. -/
def onlyValue (r : Response) : Except ResultFault Json :=
  match r.rows with
  | [[(_, value)]] => .ok value
  | [row] => .error (.columnCount row.length)
  | rows => .error (.rowCount rows.length)

/-- The row set that a value holds. An object has been read before, so no limit applies to it. -/
def rowSetOf (value : Json) : Except ResultFault RowSet :=
  match value with
  | .string text => ofOption (RowSet.reader.parse? text)
  | .object members => ofOption (RowSet.reader .buffered (.ofJson (.object members)))
  | other => .error (.notDocument other.compact)
where
  /-- A document that is not a row set is malformed. -/
  ofOption : Option RowSet → Except ResultFault RowSet
    | some s => .ok s
    | none => .error .malformed

/-- A row set without rows is refused. -/
def requireRows (s : RowSet) : Except ResultFault RowSet :=
  if s.rows.isSome then .ok s else .error .missingRows

/-- The row set that a response holds. -/
def toRowSet (r : Response) : Result RowSet :=
  ((r.onlyValue >>= rowSetOf) >>= requireRows).mapError fun fault => .of (.invalidResult fault)

end Response

end CollectionSql
