import CollectionSql.Error
import CollectionSql.Value

/-!
# Variable sets

The values that one run of a statement has for its variables.
-/

namespace CollectionSql

/-- Values of variables by name. -/
structure VariableSet where
  values : Dict Value
deriving DecidableEq, Repr

namespace VariableSet

/-- No variable has a value. -/
def empty : VariableSet := ⟨[]⟩

/-- The value of a variable. -/
def get (s : VariableSet) (name : String) : Result Value :=
  match s.values.get? name with
  | some v => .ok v
  | none => .error (.of (.unboundVariable name))

/-- Gives a variable a value. -/
def insert (s : VariableSet) (name : String) (value : Value) : VariableSet :=
  ⟨s.values.insert name value⟩

/-- The set that results from giving values one after the other. -/
def ofPairs (pairs : List (String × Value)) : VariableSet := ⟨Dict.ofPairs pairs⟩

/-- The number of variables with a value. -/
def size (s : VariableSet) : Nat := s.values.length

/-- Whether no variable has a value. -/
def isEmpty (s : VariableSet) : Bool := s.values.isEmpty

end VariableSet

end CollectionSql
