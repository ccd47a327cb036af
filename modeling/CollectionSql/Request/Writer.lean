import CollectionSql.Json.Printer
import CollectionSql.Request.Basic

/-!
# Writing requests

The one form in which a request is written: fields in declaration order, the tag of a union first.
Optional parts are left out when absent, except the variable sets, which are written as `null`.
-/

namespace CollectionSql.Request

/-- A member that is left out when absent. -/
def optionalMember (key : String) : Option Json → List (String × Json)
  | none => []
  | some j => [(key, j)]

/-- A tagged object. -/
def tagged (tag : String) (members : List (String × Json)) : Json :=
  .object (("type", .string tag) :: members)

/-- The form of where an existence check looks. -/
def ExistsIn.toJson : ExistsIn → Json
  | .related relationship arguments =>
    tagged "related" [("relationship", .string relationship), ("arguments", .object arguments)]
  | .unrelated collection arguments =>
    tagged "unrelated" [("collection", .string collection), ("arguments", .object arguments)]

mutual

/-- The form of a condition. -/
def Expression.toJson : Expression → Json
  | .and operands => tagged "and" [("expressions", .array (Expression.listToJson operands))]
  | .or operands => tagged "or" [("expressions", .array (Expression.listToJson operands))]
  | .not operand => tagged "not" [("expression", operand.toJson)]
  | .isNull column =>
    tagged "unary_comparison_operator"
      [("column", column.toJson), ("operator", .string "is_null")]
  | .compare column operator value =>
    tagged "binary_comparison_operator"
      [("column", column.toJson), ("operator", .string operator), ("value", value.toJson)]
  | .existsIn collection predicate =>
    tagged "exists" (("in_collection", collection.toJson) ::
      optionalMember "predicate" (Expression.optionToJson predicate))

/-- The forms of a list of conditions. -/
def Expression.listToJson : List Expression → List Json
  | [] => []
  | e :: es => e.toJson :: Expression.listToJson es

/-- The form of a condition that may be absent. -/
def Expression.optionToJson : Option Expression → Option Json
  | none => none
  | some e => some e.toJson

/-- The form of an element of a path. -/
def PathElement.toJson : PathElement → Json
  | ⟨relationship, arguments, predicate⟩ =>
    .object ([("relationship", .string relationship), ("arguments", .object arguments)] ++
      optionalMember "predicate" (Expression.optionToJson predicate))

/-- The forms of the elements of a path. -/
def PathElement.listToJson : List PathElement → List Json
  | [] => []
  | e :: es => e.toJson :: PathElement.listToJson es

/-- The form of the column of a comparison. -/
def ComparisonTarget.toJson : ComparisonTarget → Json
  | .column name path =>
    tagged "column" [("name", .string name), ("path", .array (PathElement.listToJson path))]
  | .rootColumn name => tagged "root_collection_column" [("name", .string name)]

/-- The form of the other side of a comparison. -/
def ComparisonValue.toJson : ComparisonValue → Json
  | .column target => tagged "column" [("column", target.toJson)]
  | .scalar value => tagged "scalar" [("value", value)]
  | .var name => tagged "variable" [("name", .string name)]

end

/-- The form of an aggregate. -/
def Aggregate.toJson : Aggregate → Json
  | .columnCount column distinct =>
    tagged "column_count" [("column", .string column), ("distinct", .bool distinct)]
  | .singleColumn column function =>
    tagged "single_column" [("column", .string column), ("function", .string function)]
  | .starCount => tagged "star_count" []

/-- The form of what rows are ordered by. -/
def OrderByTarget.toJson : OrderByTarget → Json
  | .column name path =>
    tagged "column" [("name", .string name), ("path", .array (PathElement.listToJson path))]
  | .singleColumnAggregate name function path =>
    tagged "single_column_aggregate"
      [("column", .string name), ("function", .string function),
       ("path", .array (PathElement.listToJson path))]
  | .starCountAggregate path =>
    tagged "star_count_aggregate" [("path", .array (PathElement.listToJson path))]

/-- The form of a criterion of an ordering. -/
def OrderByElement.toJson (e : OrderByElement) : Json :=
  .object [
    ("order_direction", .string (match e.direction with | .asc => "asc" | .desc => "desc")),
    ("target", e.target.toJson)]

/-- The form of a natural number. -/
def natToJson (n : Nat) : Json := .number (.integer n)

mutual

/-- The form of a query. -/
def Query.toJson : Query → Json
  | ⟨aggregates, fields, limit, offset, orderBy, predicate⟩ =>
    .object (
      optionalMember "aggregates"
        (aggregates.map fun as => .object (as.map fun a => (a.1, a.2.toJson))) ++
      optionalMember "fields" (Query.fieldsToJson fields) ++
      optionalMember "limit" (limit.map natToJson) ++
      optionalMember "offset" (offset.map natToJson) ++
      optionalMember "order_by" (orderBy.map fun es =>
        .object [("elements", .array (es.map OrderByElement.toJson))]) ++
      optionalMember "predicate" (predicate.map Expression.toJson))

/-- The form of the fields, if there are any. -/
def Query.fieldsToJson : Option (List (String × Field)) → Option Json
  | none => none
  | some fields => some (.object (Field.listToJson fields))

/-- The forms of a list of fields. -/
def Field.listToJson : List (String × Field) → List (String × Json)
  | [] => []
  | (name, field) :: rest => (name, field.toJson) :: Field.listToJson rest

/-- The form of a field. -/
def Field.toJson : Field → Json
  | .column name => tagged "column" [("column", .string name)]
  | .relationship query name arguments =>
    tagged "relationship"
      [("query", query.toJson), ("relationship", .string name),
       ("arguments", .object arguments)]

end

/-- The form of a relationship. -/
def Relationship.toJson (r : Relationship) : Json :=
  .object [
    ("column_mapping", .object (r.columnMapping.map fun e => (e.1, .string e.2))),
    ("relationship_type",
      .string (match r.cardinality with | .object => "object" | .array => "array")),
    ("target_collection", .string r.targetCollection),
    ("arguments", .object r.arguments)]

/-- The form of a request. -/
def toJson (r : Request) : Json :=
  .object [
    ("collection", .string r.collection),
    ("query", r.query.toJson),
    ("arguments", .object r.arguments),
    ("collection_relationships", .object (r.relationships.map fun e => (e.1, e.2.toJson))),
    ("variables", match r.variableSets with
      | none => .null
      | some sets => .array (sets.map .object))]

/-- The text of a request. -/
def text (r : Request) : String := r.toJson.compact

end CollectionSql.Request
