import CollectionSql.DomainName.Basic
import CollectionSql.Url.Fault
import CollectionSql.Url.Percent

/-!
# Hosts

Which texts may be the host of a URL. Between square brackets stands an IPv6 address. Under one of
the schemes of the web, a host is a domain; one that ends in a number must be an IPv4 address. Under
any other scheme it is a text without certain characters.
-/

namespace CollectionSql.Url

/-! ## IPv4 -/

/-- The value of a digit in a base. -/
def digitValue? (base : Nat) (c : Char) : Option Nat :=
  (Json.hexValue c).filter fun n => n < base

/-- The number that digits spell in a base. No digits spell zero. -/
def numberInBase? (base : Nat) (cs : List Char) : Option Nat :=
  (cs.mapM (digitValue? base)).map fun ds => ds.foldl (fun n d => n * base + d) 0

/-- The number in a part of an IPv4 address: hexadecimal after `0x`, octal after another zero, or
decimal. -/
def addressNumber? : List Char → Option Nat
  | [] => none
  | '0' :: 'x' :: cs => numberInBase? 16 cs
  | '0' :: 'X' :: cs => numberInBase? 16 cs
  | '0' :: c :: cs => numberInBase? 8 (c :: cs)
  | cs => numberInBase? 10 cs

/-- The labels of a domain without an empty last one. -/
def withoutRoot (labels : List (List Char)) : List (List Char) :=
  if labels.getLast? = some [] then labels.dropLast else labels

/-- Whether the last label of a domain is a number. -/
def endsInNumber (labels : List (List Char)) : Bool :=
  match (withoutRoot labels).getLast? with
  | none => false
  | some [] => false
  | some label => label.all Char.isDigit || (addressNumber? label).isSome

/-- Whether labels are an IPv4 address: up to four numbers, of which the last fills what the others
leave. -/
def isIpv4 (labels : List (List Char)) : Bool :=
  match (withoutRoot labels).mapM addressNumber? with
  | none => false
  | some numbers =>
    numbers.length ≤ 4 && numbers.dropLast.all (· ≤ 255) &&
      numbers.getLastD 0 < Nat.pow 256 (5 - numbers.length)

/-! ## IPv6 -/

/-- Four decimal numbers of one byte each, without leading zeros. -/
def isDottedQuad (cs : List Char) : Bool :=
  let parts := Text.pieces '.' cs
  parts.length == 4 && parts.all fun part =>
    part.all Char.isDigit && part != [] && (part == ['0'] || part.head? != some '0') &&
      Json.natOfDigits part ≤ 255

/-- One to four hexadecimal digits. -/
def isHexGroup (cs : List Char) : Bool :=
  1 ≤ cs.length && cs.length ≤ 4 && cs.all fun c => (Json.hexValue c).isSome

/-- The number of groups in parts that stood between colons; a dotted quad in last place counts as
two. -/
def countGroups (quad : Bool) : List (List Char) → Option Nat
  | [] => some 0
  | [part] =>
    if isHexGroup part then some 1 else if quad && isDottedQuad part then some 2 else none
  | part :: parts =>
    if isHexGroup part then (countGroups quad parts).map (· + 1) else none

/-- The number of groups in a text. -/
def groups? (quad : Bool) (cs : List Char) : Option Nat :=
  if cs = [] then some 0 else countGroups quad (Text.pieces ':' cs)

/-- What stands before and after the first two colons in a row. -/
def splitAtGap : List Char → Option (List Char × List Char)
  | ':' :: ':' :: rest => some ([], rest)
  | c :: rest => (splitAtGap rest).map fun parts => (c :: parts.1, parts.2)
  | [] => none

/-- Whether a text is an IPv6 address: eight groups, or fewer with one gap for groups of zeros. -/
def isIpv6 (cs : List Char) : Bool :=
  match splitAtGap cs with
  | none => groups? true cs == some 8
  | some (before, after) =>
    match groups? false before, groups? true after with
    | some a, some b => a + b ≤ 7
    | _, _ => false

/-- Checks what stands after an opening bracket. -/
def checkBracketed (cs : List Char) : Except UrlFault Unit :=
  if cs.getLast? = some ']' && isIpv6 cs.dropLast then .ok () else .error .invalidIpv6

/-! ## Hosts -/

/-- The characters that no host may have. -/
def isForbiddenInHost (c : Char) : Bool :=
  ['\x00', '\t', '\n', '\r', ' ', '#', '/', ':', '<', '>', '?', '@', '[', '\\', ']', '^',
    '|'].contains c

/-- The characters that no domain may have. -/
def isForbiddenInDomain (c : Char) : Bool := isForbiddenInHost c || isControl c || c == '%'

/-- Checks the labels of a domain. -/
def checkLabels (labels : List (List Char)) : Except UrlFault Unit :=
  if labels.any fun label => label.any isForbiddenInDomain then .error .invalidDomain
  else if labels = [[]] then .error .emptyHost
  else if endsInNumber labels && !isIpv4 labels then .error .invalidIpv4
  else .ok ()

/-- Checks the host of a URL with a scheme of the web. -/
def checkDomain : List Char → Except UrlFault Unit
  | '[' :: cs => checkBracketed cs
  | cs =>
    match (Text.ofUtf8? (decode cs)).bind fun domain => DomainName.labels? domain.toList with
    | none => .error .invalidDomain
    | some labels => checkLabels labels

/-- Checks the host of a URL with any other scheme, which may be empty. -/
def checkHost : List Char → Except UrlFault Unit
  | '[' :: cs => checkBracketed cs
  | cs => if cs.any isForbiddenInHost then .error .invalidHostCharacter else .ok ()

end CollectionSql.Url
