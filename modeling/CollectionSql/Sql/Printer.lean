import CollectionSql.Json.Printer
import CollectionSql.Sql.Basic
import CollectionSql.Sql.Quoted

/-!
# SQL text

A statement is printed as a list of pieces: fixed words, quoted names, and bound values. Its text
writes a placeholder for every bound value, and its arguments are the bound values themselves, so
both have the same order. No value and no unquoted name ever reaches the text.
-/

namespace CollectionSql.Sql

/-- A piece of a statement's text. -/
inductive Piece where
  /-- A fixed word or sign, or a number chosen by the compiler. -/
  | word (text : String)
  /-- A name between double quotes. -/
  | identifier (name : String)
  /-- A name between single quotes. -/
  | literal (name : String)
  /-- A bound value. -/
  | argument (value : Value)
deriving DecidableEq, Repr

namespace Piece

/-- The text of a piece. -/
def text : Piece → List Char
  | .word w => w.toList
  | .identifier name => quoted identifierQuote name
  | .literal name => quoted stringQuote name
  | .argument _ => ['?']

/-- The value that a piece binds. -/
def value? : Piece → Option Value
  | .argument v => some v
  | _ => none

end Piece

/-- A decimal number. -/
def numberPiece (n : Int) : Piece := .word (String.ofList (integerText n))

/-- A qualified column. -/
def Column.pieces (c : Column) : List Piece :=
  [.identifier c.table, .word ".", .identifier c.column]

/-- A join clause, with the blank before it. -/
def Join.pieces (j : Join) : List Piece :=
  [.word " JOIN ", .identifier j.table, .word " AS ", .identifier j.label, .word " ON "] ++
    j.lhs.pieces ++ [.word " = "] ++ j.rhs.pieces

/-- A limit clause, with the blank before it. -/
def Limit.pieces (l : Limit) : List Piece :=
  [.word " LIMIT ", numberPiece l.count] ++
    match l.offset with
    | none => []
    | some n => [.word " OFFSET ", numberPiece n]

/-- A limit clause that may be absent. -/
def Limit.piecesOf? : Option Limit → List Piece
  | none => []
  | some l => l.pieces

/-- A label for what comes before it, if there is one. -/
def labelPieces : Option String → List Piece
  | none => []
  | some label => [.word " AS ", .identifier label]

/-- The word for a direction, with the blank before it. -/
def directionPiece : Direction → Piece
  | .asc => .word " ASC"
  | .desc => .word " DESC"

mutual

/-- An expression. -/
def Expr.pieces : Expr → List Piece
  | .column c => c.pieces
  | .ident name => [.identifier name]
  | .value v => [.argument v]
  | .integer n => [numberPiece n]
  | .binary op lhs rhs => lhs.pieces ++ [.word " ", .word op.sql, .word " "] ++ rhs.pieces
  | .isNull operand => operand.pieces ++ [.word " IS NULL"]
  | .and operands => Expr.combined " AND " operands
  | .or operands => Expr.combined " OR " operands
  | .not operand => [.word "NOT ("] ++ operand.pieces ++ [.word ")"]
  | .existsIn select => [.word "EXISTS ("] ++ select.pieces ++ [.word ")"]
  | .subquery select => [.word "("] ++ select.pieces ++ [.word ")"]
  | .jsonObject entries => [.word "JSON_OBJECT("] ++ Expr.entries entries ++ [.word ")"]
  | .jsonGroupArray operand => [.word "JSON_GROUP_ARRAY("] ++ operand.pieces ++ [.word ")"]
  | .json operand => [.word "JSON("] ++ operand.pieces ++ [.word ")"]

/-- Conditions with a word between them; no condition at all is the constant that is true. -/
def Expr.combined (word : String) : List Expr → List Piece
  | [] => [.word "1"]
  | e :: es => [.word "("] ++ e.pieces ++ Expr.following word es ++ [.word ")"]

/-- Expressions, each with the separator before it. -/
def Expr.following (separator : String) : List Expr → List Piece
  | [] => []
  | e :: es => .word separator :: (e.pieces ++ Expr.following separator es)

/-- The keys and values of a JSON object. -/
def Expr.entries : List (String × Expr) → List Piece
  | [] => []
  | (key, e) :: rest => [.literal key, .word ", "] ++ e.pieces ++ Expr.followingEntries rest

/-- Keys and values, each pair with the separator before it. -/
def Expr.followingEntries : List (String × Expr) → List Piece
  | [] => []
  | (key, e) :: rest =>
    [.word ", ", .literal key, .word ", "] ++ e.pieces ++ Expr.followingEntries rest

/-- A statement. -/
def Select.pieces : Select → List Piece
  | ⟨projection, source, joins, filter, groupBy, orderBy, limit⟩ =>
    [.word "SELECT "] ++ Select.projected projection ++ Select.sourcePieces source ++
      joins.flatMap Join.pieces ++ Select.filterPieces filter ++ Select.groupPieces groupBy ++
      Select.orderPieces orderBy ++ Limit.piecesOf? limit

/-- The projected expressions. -/
def Select.projected : List (Expr × Option String) → List Piece
  | [] => []
  | (e, label) :: rest => e.pieces ++ labelPieces label ++ Select.followingProjected rest

/-- Projected expressions, each with the separator before it. -/
def Select.followingProjected : List (Expr × Option String) → List Piece
  | [] => []
  | (e, label) :: rest =>
    [.word ", "] ++ e.pieces ++ labelPieces label ++ Select.followingProjected rest

/-- A source clause that may be absent, with the blank before it. -/
def Select.sourcePieces : Option Source → List Piece
  | none => []
  | some (.table name label) =>
    [.word " FROM ", .identifier name, .word " AS ", .identifier label]
  | some (.subquery select) => [.word " FROM ", .word "("] ++ select.pieces ++ [.word ")"]

/-- A filter clause that may be absent, with the blank before it. -/
def Select.filterPieces : Option Expr → List Piece
  | none => []
  | some e => .word " WHERE " :: e.pieces

/-- A grouping clause that may be absent, with the blank before it. -/
def Select.groupPieces : List Expr → List Piece
  | [] => []
  | e :: es => .word " GROUP BY " :: (e.pieces ++ Expr.following ", " es)

/-- An ordering clause that may be absent, with the blank before it. -/
def Select.orderPieces : List (Expr × Direction) → List Piece
  | [] => []
  | (e, d) :: rest =>
    [.word " ORDER BY "] ++ e.pieces ++ [directionPiece d] ++ Select.followingOrders rest

/-- Criteria of an ordering, each with the separator before it. -/
def Select.followingOrders : List (Expr × Direction) → List Piece
  | [] => []
  | (e, d) :: rest =>
    [.word ", "] ++ e.pieces ++ [directionPiece d] ++ Select.followingOrders rest

end

/-- The text of a statement. -/
def Select.text (s : Select) : String := String.ofList (s.pieces.flatMap Piece.text)

/-- The values bound to the placeholders of a statement, in order. -/
def Select.arguments (s : Select) : List Value := s.pieces.filterMap Piece.value?

end CollectionSql.Sql
