import CollectionSql.Error
import CollectionSql.Json.Reader
import CollectionSql.Request.Basic

/-!
# Reading requests

Readers for the parts of a request. Conditions and queries contain each other, so their readers
count down from the nesting limit: a nested part is inside at least one more container, and a
document that opens more containers than the limit has been refused before.
-/

namespace CollectionSql.Request

open Json (Reader Record)

/-- Reads arguments. -/
def Arguments.reader : Reader Arguments := .dict .json

/-! ## Conditions -/

/-- Reads where an existence check looks. -/
def ExistsIn.reader : Reader ExistsIn := fun mode t => do
  match ← Reader.variant ["related", "unrelated"] mode t with
  | ("related", body) =>
    let r ← Record.ofVariant ["relationship", "arguments"] body
    return .related (← r.required "relationship" .string)
      (← r.withDefault "arguments" Arguments.reader [])
  | (_, body) =>
    let r ← Record.ofVariant ["collection", "arguments"] body
    return .unrelated (← r.required "collection" .string)
      (← r.withDefault "arguments" Arguments.reader [])

/-- The tags of conditions, in order. -/
def Expression.tags : List String :=
  ["and", "or", "not", "unary_comparison_operator", "binary_comparison_operator", "exists"]

/-- Reads the operator of a condition on a single column, of which there is one. -/
def nullCheck : Reader Unit := .choice [("is_null", ())]

mutual

/-- Reads a condition of at most the given depth. -/
def Expression.readerUpTo : Nat → Reader Expression
  | 0 => fun _ _ => none
  | depth + 1 => fun mode t => do
    match ← Reader.variant Expression.tags mode t with
    | ("and", body) =>
      let r ← Record.ofVariant ["expressions"] body
      return .and (← r.required "expressions" (.list (Expression.readerUpTo depth)))
    | ("or", body) =>
      let r ← Record.ofVariant ["expressions"] body
      return .or (← r.required "expressions" (.list (Expression.readerUpTo depth)))
    | ("not", body) =>
      let r ← Record.ofVariant ["expression"] body
      return .not (← r.required "expression" (Expression.readerUpTo depth))
    | ("unary_comparison_operator", body) =>
      let r ← Record.ofVariant ["column", "operator"] body
      let column ← r.required "column" (ComparisonTarget.readerUpTo depth)
      let _ ← r.required "operator" nullCheck
      return .isNull column
    | ("binary_comparison_operator", body) =>
      let r ← Record.ofVariant ["column", "operator", "value"] body
      return .compare (← r.required "column" (ComparisonTarget.readerUpTo depth))
        (← r.required "operator" .string)
        (← r.required "value" (ComparisonValue.readerUpTo depth))
    | (_, body) =>
      let r ← Record.ofVariant ["in_collection", "predicate"] body
      return .existsIn (← r.required "in_collection" ExistsIn.reader)
        (← r.optional "predicate" (Expression.readerUpTo depth))

/-- Reads an element of a path of at most the given depth. -/
def PathElement.readerUpTo : Nat → Reader PathElement
  | 0 => fun _ _ => none
  | depth + 1 => fun mode t => do
    let r ← Record.reader ["relationship", "arguments", "predicate"] mode t
    return {
      relationship := ← r.required "relationship" .string
      arguments := ← r.withDefault "arguments" Arguments.reader []
      predicate := ← r.optional "predicate" (Expression.readerUpTo depth) }

/-- Reads the column of a comparison of at most the given depth. -/
def ComparisonTarget.readerUpTo : Nat → Reader ComparisonTarget
  | 0 => fun _ _ => none
  | depth + 1 => fun mode t => do
    match ← Reader.variant ["column", "root_collection_column"] mode t with
    | ("column", body) =>
      let r ← Record.ofVariant ["name", "path"] body
      return .column (← r.required "name" .string)
        (← r.withDefault "path" (.list (PathElement.readerUpTo depth)) [])
    | (_, body) =>
      let r ← Record.ofVariant ["name"] body
      return .rootColumn (← r.required "name" .string)

/-- Reads the other side of a comparison of at most the given depth. -/
def ComparisonValue.readerUpTo : Nat → Reader ComparisonValue
  | 0 => fun _ _ => none
  | depth + 1 => fun mode t => do
    match ← Reader.variant ["column", "scalar", "variable"] mode t with
    | ("column", body) =>
      let r ← Record.ofVariant ["column"] body
      return .column (← r.required "column" (ComparisonTarget.readerUpTo depth))
    | ("scalar", body) =>
      let r ← Record.ofVariant ["value"] body
      return .scalar (← r.required "value" .json)
    | (_, body) =>
      let r ← Record.ofVariant ["name"] body
      return .var (← r.required "name" .string)

end

/-- Reads a condition. -/
def Expression.reader : Reader Expression := Expression.readerUpTo Json.nestingLimit

/-- Reads an element of a path. -/
def PathElement.reader : Reader PathElement := PathElement.readerUpTo Json.nestingLimit

/-! ## Queries -/

/-- Reads an aggregate. -/
def Aggregate.reader : Reader Aggregate := fun mode t => do
  match ← Reader.variant ["column_count", "single_column", "star_count"] mode t with
  | ("column_count", body) =>
    let r ← Record.ofVariant ["column", "distinct"] body
    return .columnCount (← r.required "column" .string) (← r.withDefault "distinct" .bool false)
  | ("single_column", body) =>
    let r ← Record.ofVariant ["column", "function"] body
    return .singleColumn (← r.required "column" .string) (← r.required "function" .string)
  | (_, body) =>
    let _ ← Record.ofVariant [] body
    return .starCount

/-- Reads what rows are ordered by. -/
def OrderByTarget.reader : Reader OrderByTarget := fun mode t => do
  let tags := ["column", "single_column_aggregate", "star_count_aggregate"]
  match ← Reader.variant tags mode t with
  | ("column", body) =>
    let r ← Record.ofVariant ["name", "path"] body
    return .column (← r.required "name" .string)
      (← r.withDefault "path" (.list PathElement.reader) [])
  | ("single_column_aggregate", body) =>
    let r ← Record.ofVariant ["column", "function", "path"] body
    return .singleColumnAggregate (← r.required "column" .string)
      (← r.required "function" .string)
      (← r.withDefault "path" (.list PathElement.reader) [])
  | (_, body) =>
    let r ← Record.ofVariant ["path"] body
    return .starCountAggregate (← r.withDefault "path" (.list PathElement.reader) [])

/-- Reads a criterion of an ordering. -/
def OrderByElement.reader : Reader OrderByElement := fun mode t => do
  let r ← Record.reader ["order_direction", "target"] mode t
  return {
    direction := ← r.required "order_direction" (.choice [("asc", .asc), ("desc", .desc)])
    target := ← r.required "target" OrderByTarget.reader }

/-- Reads an ordering. -/
def orderByReader : Reader (List OrderByElement) := fun mode t => do
  let r ← Record.reader ["elements"] mode t
  r.required "elements" (.list OrderByElement.reader)

mutual

/-- Reads a query of at most the given depth. -/
def Query.readerUpTo : Nat → Reader Query
  | 0 => fun _ _ => none
  | depth + 1 => fun mode t => do
    let r ← Record.reader
      ["aggregates", "fields", "limit", "offset", "order_by", "predicate"] mode t
    return {
      aggregates := ← r.optional "aggregates" (.dict Aggregate.reader)
      fields := ← r.optional "fields" (.dict (Field.readerUpTo depth))
      limit := ← r.optional "limit" .nat32
      offset := ← r.optional "offset" .nat32
      orderBy := ← r.optional "order_by" orderByReader
      predicate := ← r.optional "predicate" Expression.reader }

/-- Reads a field of at most the given depth. -/
def Field.readerUpTo : Nat → Reader Field
  | 0 => fun _ _ => none
  | depth + 1 => fun mode t => do
    match ← Reader.variant ["column", "relationship"] mode t with
    | ("column", body) =>
      let r ← Record.ofVariant ["column"] body
      return .column (← r.required "column" .string)
    | (_, body) =>
      let r ← Record.ofVariant ["query", "relationship", "arguments"] body
      return .relationship (← r.required "query" (Query.readerUpTo depth))
        (← r.required "relationship" .string)
        (← r.withDefault "arguments" Arguments.reader [])

end

/-- Reads a query. -/
def Query.reader : Reader Query := Query.readerUpTo Json.nestingLimit

/-! ## Requests -/

/-- Reads a relationship. -/
def Relationship.reader : Reader Relationship := fun mode t => do
  let r ← Record.reader
    ["column_mapping", "relationship_type", "target_collection", "arguments"] mode t
  return {
    columnMapping := ← r.required "column_mapping" (.dict .string)
    cardinality := ← r.required "relationship_type"
      (.choice [("object", .object), ("array", .array)])
    targetCollection := ← r.required "target_collection" .string
    arguments := ← r.withDefault "arguments" Arguments.reader [] }

/-- Reads a request. -/
def reader : Reader Request := fun mode t => do
  let r ← Record.reader
    ["collection", "query", "arguments", "collection_relationships", "variables"] mode t
  return {
    collection := ← r.required "collection" .string
    query := ← r.required "query" Query.reader
    arguments := ← r.withDefault "arguments" Arguments.reader []
    relationships := ← r.withDefault "collection_relationships" (.dict Relationship.reader) []
    variableSets := ← r.optional "variables" (.list (.dict .json)) }

/-- The request that a text holds. -/
def parse (text : String) : Result Request :=
  match reader.parse? text with
  | some r => .ok r
  | none => .error (.configuration .malformedRequest)

end CollectionSql.Request
