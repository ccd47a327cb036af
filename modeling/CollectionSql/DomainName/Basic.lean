import CollectionSql.DomainName.Bidi
import CollectionSql.DomainName.Joiner
import CollectionSql.DomainName.Mapping
import CollectionSql.DomainName.NormalForm
import CollectionSql.DomainName.Punycode

/-!
# Domain names

A domain name is a list of labels with points between them. It is read without regard to case and to
the way in which its characters are spelt, and a label with characters beyond ASCII may also be
written in Punycode.
-/

namespace CollectionSql.DomainName

/-- The start of a label in Punycode. -/
def punycodeStart : List Char := ['x', 'n', '-', '-']

/-- The most characters of a label beyond ASCII. -/
def maxLabelLength : Nat := 1000

/-- The most characters of a label in Punycode after its start. -/
def maxPunycodeLength : Nat := 2000

/-- Whether a label has only characters that may stand in it, where they may stand. -/
def isProper (label : List Char) : Bool :=
  label.all isValid && !label.head?.any isMark && joinersFit label

/-- Whether a label may be written in Punycode: it has characters beyond ASCII, is in normal form
and does not look like Punycode itself. -/
def isEncodable (label : List Char) : Bool :=
  !label.all isAscii && isProper label && normalForm label == label &&
    !punycodeStart.isPrefixOf label

/-- What a label in Punycode reads, given what follows its start. -/
def readPunycode (cs : List Char) : Option (List Char) :=
  if maxPunycodeLength < cs.length then none
  else (Punycode.decode cs).filter isEncodable

/-- What a label reads. -/
def readLabel (label : List Char) : Option (List Char) :=
  if punycodeStart.isPrefixOf label then readPunycode (label.drop punycodeStart.length)
  else if label.all isAscii then some label
  else if label.length ≤ maxLabelLength ∧ isProper label then some label
  else none

/-- The labels of a domain name as they read; `none` if it is not one. -/
def labels? (cs : List Char) : Option (List (List Char)) := do
  let mapped ← mapText cs
  let labels ← (Text.pieces '.' (normalForm mapped)).mapM readLabel
  if keepDirections labels then some labels else none

end CollectionSql.DomainName
