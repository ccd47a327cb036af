import CollectionSql.Error
import CollectionSql.Text.Space

/-!
# Scalar types

The types that a field may have, by the names of the config document and by the types that SQLite
tables declare for their columns.
-/

namespace CollectionSql

/-- The type of a field. -/
inductive ScalarType where
  | string
  | int
  | float
deriving DecidableEq, Repr

namespace ScalarType

/-- The name of a type in the config document. -/
def name : ScalarType → String
  | .string => "String"
  | .int => "Int"
  | .float => "Float"

/-- The type with a name. -/
def ofName (name : String) : Result ScalarType :=
  match name with
  | "String" => .ok .string
  | "Int" => .ok .int
  | "Float" => .ok .float
  | _ => .error (.configuration (.unknownScalarType name))

/-- A declaration without the white space around it, in upper case. -/
def normalizedDeclaration (declaration : String) : String :=
  String.ofList ((Text.trim declaration.toList).map Text.upperAscii)

/-- The type of a column by its declaration. A few words are known whole, two by how they begin. -/
def ofDeclaration (declaration : String) : Result ScalarType :=
  let word := normalizedDeclaration declaration
  if word = "TEXT" ∨ word = "DATETIME" then .ok .string
  else if word = "INTEGER" then .ok .int
  else if word = "REAL" then .ok .float
  else if word = "BLOB" then .error (.notImplemented .blobColumn)
  else if "NVARCHAR".toList.isPrefixOf word.toList then .ok .string
  else if "NUMERIC".toList.isPrefixOf word.toList then .ok .float
  else .error (.notImplemented (.declaredType word))

/-- Names and types correspond. -/
theorem ofName_eq_ok_iff (s : String) (t : ScalarType) : ofName s = .ok t ↔ s = t.name := by
  unfold ofName
  split <;> cases t <;> simp_all [name]

end ScalarType

end CollectionSql
