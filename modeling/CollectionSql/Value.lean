import CollectionSql.Json.Printer
import CollectionSql.Json.Reader

/-!
# Scalar values

The values that a statement binds to its placeholders. Every JSON value has one: a composite is
bound as its text, and an integer that does not fit 64 bits with sign as a binary64 number.
-/

namespace CollectionSql

/-- A value bound to a placeholder. -/
inductive Value where
  | null
  | bool (value : Bool)
  | int (value : Int)
  | float (value : Binary64)
  | string (value : String)
deriving DecidableEq, Repr

namespace Value

/-- Whether the value is `null`. -/
def isNull : Value → Bool
  | .null => true
  | _ => false

/-- The text of a string value. -/
def asString? : Value → Option String
  | .string s => some s
  | _ => none

/-- The least integer of 64 bits with sign. -/
def minInt : Int := -0x8000000000000000

/-- The greatest integer of 64 bits with sign. -/
def maxInt : Int := 0x7FFFFFFFFFFFFFFF

/-- The value of a number. -/
def ofNumber : Number → Value
  | .integer n =>
    if minInt ≤ n ∧ n ≤ maxInt then .int n
    else
      match Binary64.ofRatio? (n < 0) n.natAbs 1 with
      | some x => .float x
      | none => .null
  | .float x => .float x

/-- The value that a JSON value is bound as. -/
def ofJson : Json → Value
  | .null => .null
  | .bool b => .bool b
  | .number n => ofNumber n
  | .string s => .string s
  | .array items => .string (Json.compact (.array items))
  | .object members => .string (Json.compact (.object members))

/-- The JSON value of a scalar. -/
def toJson : Value → Json
  | .null => .null
  | .bool b => .bool b
  | .int n => .number (.integer n)
  | .float x => if x.isFinite then .number (.float x) else .null
  | .string s => .string s

/-- Reads a scalar; composites are none. -/
def reader : Json.Reader Value
  | _, .array _ => none
  | _, .object _ => none
  | mode, t => (Json.Reader.json mode t).map ofJson

end Value

end CollectionSql
