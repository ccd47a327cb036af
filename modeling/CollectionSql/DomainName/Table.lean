import CollectionSql.Json.Token
import CollectionSql.Text.Pieces

/-!
# Tables of code points

A property of characters is written down as lines of words. A word is a code point in hexadecimal,
as in `B7`, or a range of them, as in `61-7A`. A table need not be exact about code points that no
domain name has.
-/

namespace CollectionSql.DomainName

/-- The words in some lines. -/
def wordsOf (lines : List String) : List (List Char) :=
  lines.flatMap fun line => Text.pieces ' ' line.toList

/-- The number that hexadecimal digits spell. -/
def hexNumber (cs : List Char) : Nat :=
  cs.foldl (fun n c => n * 16 + (Json.hexValue c).getD 0) 0

/-- The code points from a first to a last one. -/
structure CodeRange where
  first : Nat
  last : Nat
deriving DecidableEq, Repr

namespace CodeRange

/-- The range that a word names. -/
def ofWord (word : List Char) : CodeRange :=
  match Text.pieces '-' word with
  | [first, last] => ⟨hexNumber first, hexNumber last⟩
  | _ => ⟨hexNumber word, hexNumber word⟩

/-- Whether a character is in a range. -/
def contains (r : CodeRange) (c : Char) : Bool := r.first ≤ c.toNat && c.toNat ≤ r.last

end CodeRange

/-- The ranges that lines name. -/
def rangesOf (lines : List String) : List CodeRange := (wordsOf lines).map CodeRange.ofWord

/-- Whether a character is in one of some ranges. -/
def isListed (ranges : List CodeRange) (c : Char) : Bool := ranges.any fun r => r.contains c

/-- Whether a character is one of ASCII. -/
def isAscii (c : Char) : Bool := c.toNat < 0x80

end CollectionSql.DomainName
