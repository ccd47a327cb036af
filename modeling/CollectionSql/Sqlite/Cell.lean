import CollectionSql.Json.Token
import CollectionSql.Response
import CollectionSql.Text.Utf8
import CollectionSql.Value

/-!
# Cells

What SQLite stores in one column of one row, how a value is bound to a placeholder, and how a cell
is read back. SQLite has no truth values and no NaN, so these come back as integers and as NULL.
-/

namespace CollectionSql.Sqlite

/-- The content of a column in one row. A text is its bytes, which need not be valid. -/
inductive Cell where
  | null
  | integer (value : Int)
  | real (value : Binary64)
  | text (bytes : List UInt8)
  | blob (bytes : List UInt8)
deriving DecidableEq

namespace Cell

/-- The cell that a value is bound as. -/
def ofValue : Value → Cell
  | .null => .null
  | .bool b => .integer (if b then 1 else 0)
  | .int n => .integer n
  | .float x => if x.isNaN then .null else .real x
  | .string s => .text (Text.utf8 s)

/-- The JSON value of a cell. An infinity is read as `null`, faults in a text are replaced, and
blobs are not supported. -/
def toJson : Cell → Result Json
  | .null => .ok .null
  | .integer n => .ok (.number (.integer n))
  | .real x => .ok (if x.isFinite then .number (.float x) else .null)
  | .text bytes => .ok (.string (Text.ofUtf8Lossy bytes))
  | .blob _ => .error (.notImplemented .blobValue)

/-- The number that SQL spells with digits and an exponent. Without a point and an exponent it is an
integer as long as 64 bits with sign hold it; a number too large for binary64 is infinite. -/
def ofDigits (negative : Bool) (whole : List Char) (fraction : Option (List Char))
    (exponent : Option Int) : Cell :=
  let n : Int := Json.natOfDigits whole
  let n := if negative then -n else n
  if fraction = none ∧ exponent = none ∧ Value.minInt ≤ n ∧ n ≤ Value.maxInt then .integer n
  else
    let tail := fraction.getD []
    let digits := Json.natOfDigits (whole ++ tail)
    match Binary64.ofDecimal? negative digits (exponent.getD 0 - tail.length) with
    | some x => .real x
    | none => .real (.infinity negative)

/-- The number that a SQL numeral without its sign spells. -/
def ofUnsigned? (negative : Bool) (cs : List Char) : Option Cell := do
  let (whole, rest) := Json.scanDigits cs
  let (fraction, rest) := match rest with
    | '.' :: rest => let (ds, rest) := Json.scanDigits rest; (some ds, rest)
    | rest => (none, rest)
  guard (whole ++ fraction.getD [] ≠ [])
  let (exponent, rest) ← Json.scanExponent rest
  guard (rest = [])
  return ofDigits negative whole fraction exponent

/-- The number that a SQL numeral spells. -/
def ofNumeral? (numeral : String) : Option Cell :=
  match numeral.toList with
  | '-' :: cs => ofUnsigned? true cs
  | '+' :: cs => ofUnsigned? false cs
  | cs => ofUnsigned? false cs

end Cell

/-- The row that cells make under the names of their columns. A repeated name keeps its first place
and its last cell. -/
def readRow (columns : List (String × Cell)) : Result Row := do
  let entries ← columns.mapM fun c => (c.2.toJson).map (c.1, ·)
  return Dict.ofPairs entries

/-- A statement that returns the same row a number of times: each column is a constant or a
placeholder. -/
structure Constants where
  columns : List (String × Option Cell)
  rows : Nat

namespace Constants

/-- The number of placeholders. Even a statement without rows has a row of them. -/
def parameterCount (s : Constants) : Nat :=
  (s.columns.filter fun c => c.2.isNone).length * max s.rows 1

/-- The columns of one row with values for their placeholders, and the values that are left. -/
def fill : List (String × Option Cell) → List Value → List (String × Cell) × List Value
  | [], values => ([], values)
  | (name, some cell) :: rest, values =>
    let (cells, values) := fill rest values
    ((name, cell) :: cells, values)
  | (name, none) :: rest, values =>
    let (cells, left) := fill rest values.tail
    ((name, Cell.ofValue (values.headD .null)) :: cells, left)

/-- The rows, each taking its values off the front. -/
def fillRows (columns : List (String × Option Cell)) : Nat → List Value →
    List (List (String × Cell))
  | 0, _ => []
  | n + 1, values =>
    let (cells, left) := fill columns values
    cells :: fillRows columns n left

/-- The failure of binding a number of values to another number of placeholders. The first value
without a placeholder is where binding stops. -/
def wrongCount (given needed : Nat) : Failure :=
  let got := min given (needed + 1)
  ⟨s!"Wrong number of parameters passed to query. Got {got}, needed {needed}", []⟩

/-- Runs the statement. -/
def run (s : Constants) (values : List Value) : Result Response := do
  if values.length ≠ s.parameterCount then
    throw (.of (.executionFailed (wrongCount values.length s.parameterCount)))
  let rows ← (fillRows s.columns s.rows values).mapM readRow
  return ⟨rows⟩

end Constants

end CollectionSql.Sqlite
