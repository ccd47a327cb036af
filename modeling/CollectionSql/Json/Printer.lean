import CollectionSql.Binary64.Shortest
import CollectionSql.Json.Basic

/-!
# JSON text

Writing JSON values. One printer serves both layouts: `compact` has no blanks at all, `pretty` puts
every item and member on a line of its own. An empty array or object is written on one line in both.
-/

namespace CollectionSql

/-! ## Numbers -/

/-- The decimal digits of a natural number. -/
def digitsOf (n : Nat) : List Char := Nat.toDigits 10 n

theorem isDigit_of_mem_digitsOf {n : Nat} {c : Char} (hc : c ∈ digitsOf n) : c.isDigit :=
  Nat.isDigit_of_mem_toDigits (by decide) (by decide) hc

/-- The decimal text of an integer. -/
def integerText (n : Int) : List Char :=
  if n < 0 then '-' :: digitsOf n.natAbs else digitsOf n.natAbs

namespace Binary64

/-- The powers of ten between which a number is written without an exponent. -/
structure DecimalFormat where
  leastPlain : Int
  leastScientific : Int

/-- Numbers from `10 ^ -5` up to, but not including, `10 ^ 16` have no exponent. -/
def jsonFormat : DecimalFormat := ⟨-5, 16⟩

/-- The digits with a point after the first `point` of them, and at least one digit on each side. -/
def plainText (digits : List Char) (point : Int) : List Char :=
  if point ≤ 0 then '0' :: '.' :: (List.replicate (-point).toNat '0' ++ digits)
  else
    let n := point.toNat
    if n < digits.length then digits.take n ++ '.' :: digits.drop n
    else digits ++ List.replicate (n - digits.length) '0' ++ ['.', '0']

/-- The digits with a point after the first, if others follow, and a signed power of ten. -/
def scientificText (digits : List Char) (exponent : Int) : List Char :=
  let mantissa := match digits with
    | [] => []
    | [d] => [d]
    | d :: rest => d :: '.' :: rest
  mantissa ++ 'e' :: (if exponent < 0 then '-' else '+') :: digitsOf exponent.natAbs

/-- The text of a finite number: the shortest digits that read back, with a point and, outside the
plain range, an exponent. A zero keeps its sign. -/
def text (x : Binary64) : List Char :=
  let magnitude :=
    if x.significand = 0 then ['0', '.', '0']
    else
      let (value, power) := x.shortest
      let digits := digitsOf value
      let point : Int := digits.length + power
      if jsonFormat.leastPlain ≤ point - 1 ∧ point - 1 < jsonFormat.leastScientific then
        plainText digits point
      else scientificText digits (point - 1)
  if x.isNegative then '-' :: magnitude else magnitude

end Binary64

/-- The text of a number. JSON has no spelling for an infinity or a NaN, which are written as
`null`. -/
def Number.text : Number → List Char
  | .integer n => integerText n
  | .float x => if x.isFinite then x.text else ['n', 'u', 'l', 'l']

namespace Json

/-! ## Strings -/

/-- A hexadecimal digit in lower case. -/
def hexDigit (n : Nat) : Char :=
  if n < 10 then Char.ofNat (n + '0'.toNat) else Char.ofNat (n - 10 + 'a'.toNat)

/-- How a character is written inside a string: quotes, backslashes and control characters are
escaped, everything else stands for itself. -/
def escaped (c : Char) : List Char :=
  if c = '"' then ['\\', '"']
  else if c = '\\' then ['\\', '\\']
  else if c = '\x08' then ['\\', 'b']
  else if c = '\x0c' then ['\\', 'f']
  else if c = '\n' then ['\\', 'n']
  else if c = '\r' then ['\\', 'r']
  else if c = '\t' then ['\\', 't']
  else if c.toNat < 0x20 then
    ['\\', 'u', '0', '0', hexDigit (c.toNat / 16), hexDigit (c.toNat % 16)]
  else [c]

/-- A string between quotes. -/
def stringText (s : String) : List Char := '"' :: (s.toList.flatMap escaped ++ ['"'])

/-! ## Values -/

/-- Where blanks go: the start of a line at a given depth, and what follows a colon. -/
structure Layout where
  lineStart : Nat → List Char
  afterColon : List Char

/-- No blanks. -/
def compactLayout : Layout := ⟨fun _ => [], []⟩

/-- A line for every item and member, indented by two spaces a level. -/
def prettyLayout : Layout := ⟨fun depth => '\n' :: List.replicate (2 * depth) ' ', [' ']⟩

mutual

/-- The text of a value that stands at the given depth. -/
def render (l : Layout) (depth : Nat) : Json → List Char
  | .null => ['n', 'u', 'l', 'l']
  | .bool true => ['t', 'r', 'u', 'e']
  | .bool false => ['f', 'a', 'l', 's', 'e']
  | .number n => n.text
  | .string s => stringText s
  | .array [] => ['[', ']']
  | .array (x :: xs) =>
    '[' :: (l.lineStart (depth + 1) ++ render l (depth + 1) x ++ renderItems l (depth + 1) xs ++
      l.lineStart depth ++ [']'])
  | .object [] => ['{', '}']
  | .object ((k, v) :: ms) =>
    '{' :: (l.lineStart (depth + 1) ++ stringText k ++ ':' :: l.afterColon ++
      render l (depth + 1) v ++ renderMembers l (depth + 1) ms ++ l.lineStart depth ++ ['}'])

/-- The items after the first, each with the comma before it. -/
def renderItems (l : Layout) (depth : Nat) : List Json → List Char
  | [] => []
  | x :: xs => ',' :: (l.lineStart depth ++ render l depth x ++ renderItems l depth xs)

/-- The members after the first, each with the comma before it. -/
def renderMembers (l : Layout) (depth : Nat) : List (String × Json) → List Char
  | [] => []
  | (k, v) :: ms =>
    ',' :: (l.lineStart depth ++ stringText k ++ ':' :: l.afterColon ++ render l depth v ++
      renderMembers l depth ms)

end

/-- The text without blanks. -/
def compact (j : Json) : String := String.ofList (render compactLayout 0 j)

/-- The text with a line for every item and member. -/
def pretty (j : Json) : String := String.ofList (render prettyLayout 0 j)

end Json

end CollectionSql
