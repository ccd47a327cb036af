import CollectionSql.Selection.Scope

/-!
# Following relationships

A relationship is followed in two ways. A nested selection and an existence check are tied to the
outer row by the relationship's column mapping (`correlation`). A path of a column reference becomes
a chain of joins, one a hop, and each hop is joined on a foreign key between the two collections
(`chooseKey`), preferably one that the column mapping mentions.
-/

namespace CollectionSql.Selection

/-- A foreign key between the collection that a hop starts from and the one that it leads to. It is
forward if the first owns it, and reverse if the second does. -/
inductive HopKey where
  | forward (field : String) (key : ForeignKey)
  | reverse (field : String) (key : ForeignKey)
deriving DecidableEq, Repr

namespace HopKey

/-- Whether the key belongs to the target, so that many rows may match. -/
def isReverse : HopKey → Bool
  | .forward _ _ => false
  | .reverse _ _ => true

/-- The columns that a key makes equal: the field of its owner and the column it points at. -/
def columns (current target : String) : HopKey → Sql.Column × Sql.Column
  | .forward field key => (⟨current, field⟩, ⟨target, key.column⟩)
  | .reverse field key => (⟨target, field⟩, ⟨current, key.column⟩)

/-- Whether a column mapping, which goes from the current collection to the target, mentions the
key. -/
def agreesWith (mapping : List (String × String)) : HopKey → Bool
  | .forward field key => mapping.contains (field, key.column)
  | .reverse field key => mapping.contains (key.column, field)

end HopKey

/-- The foreign keys between two collections: those of the current one, then those of the target,
each in order of declaration. -/
def hopKeys (schema : Schema) (current target : Collection) : List HopKey :=
  (current.foreignKeysTo target.name).map (fun k => .forward k.1 k.2) ++
  ((schema.foreignKeysTargeting current.name).filter fun k => k.1.name = target.name).map
    fun k => .reverse k.2.1 k.2.2

/-- The key for a hop: the first that agrees with the mapping, or else the first there is. -/
def chooseKey (schema : Schema) (r : Relationship) (current target : Collection) :
    Option HopKey :=
  let keys := hopKeys schema current target
  (keys.find? (·.agreesWith r.columnMapping)).or keys.head?

/-- One hop: the occurrence that it leads to, and the joins with its join among them. A hop over a
key of the target, or over a relationship to many, may repeat rows. -/
def hop (env : Env) (o : Occurrence) (id : RelationshipId) (js : Joins) :
    Result (Occurrence × Joins) := do
  let r ← env.relationships.get id
  let target ← env.schema.collection r.targetCollection
  let label := joinLabel o.label r.name
  match chooseKey env.schema r o.collection target with
  | none =>
    throw (.of (.unresolvableRelationship r.name (.noForeignKey o.collection.name target.name)))
  | some key =>
    let (lhs, rhs) := key.columns o.label label
    let fansOut := key.isReverse || r.cardinality == .array
    return (⟨target, label⟩, js.insert ⟨target.name, label, lhs, rhs⟩ fansOut)

/-- A path of hops. -/
def followPath (env : Env) : List RelationshipId → Occurrence → Joins → Result (Occurrence × Joins)
  | [], o, js => .ok (o, js)
  | id :: ids, o, js => do
    let (o, js) ← hop env o id js
    followPath env ids o js

/-- The condition that one pair of a column mapping puts on a parent and a child. -/
def correlationOf (parent child : Occurrence) (pair : String × String) : Result Sql.Expr := do
  let lhs ← parent.column pair.1
  let rhs ← child.column pair.2
  return .binary .eq (.column lhs) (.column rhs)

/-- The conditions that tie a child to its parent. -/
def correlation (r : Relationship) (parent child : Occurrence) : Result (List Sql.Expr) :=
  r.columnMapping.mapM (correlationOf parent child)

end CollectionSql.Selection
