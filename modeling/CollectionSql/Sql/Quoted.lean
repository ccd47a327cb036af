/-!
# Quoted names

A name is written between quotes, with every quote inside it doubled. Identifiers stand between
double quotes and strings between single ones.

A `?` in a text is a placeholder unless it is quoted. The scanner for placeholders does not need to
know about doubled quotes: a doubled quote closes the span and opens it again.
-/

namespace CollectionSql.Sql

/-- The quote around identifiers. -/
def identifierQuote : Char := '\x22'

/-- The quote around strings. -/
def stringQuote : Char := '\x27'

/-- The characters of a name with every quote doubled. -/
def doubled (quote : Char) : List Char → List Char
  | [] => []
  | c :: cs => if c = quote then c :: c :: doubled quote cs else c :: doubled quote cs

/-- A name between quotes. -/
def quoted (quote : Char) (name : String) : List Char :=
  quote :: (doubled quote name.toList ++ [quote])

/-- The quote of the span that a scanner is in, if it is in one. -/
abbrev Span := Option Char

/-- The span after one more character. -/
def Span.next (s : Span) (c : Char) : Span :=
  match s with
  | none => if c = stringQuote ∨ c = identifierQuote then some c else none
  | some q => if c = q then none else some q

/-- Whether a character is a placeholder. -/
def Span.isPlaceholder (s : Span) (c : Char) : Bool := s.isNone && c == '?'

/-- The span after a text. -/
def Span.after (s : Span) (cs : List Char) : Span := cs.foldl Span.next s

/-- The number of placeholders in a text that starts in the given span. -/
def placeholdersFrom (s : Span) : List Char → Nat
  | [] => 0
  | c :: cs => (if s.isPlaceholder c then 1 else 0) + placeholdersFrom (s.next c) cs

/-- The number of placeholders in a text. -/
def placeholders (text : String) : Nat := placeholdersFrom none text.toList

end CollectionSql.Sql
