import CollectionSql.Json.Token
import CollectionSql.Text.Utf8

/-!
# Percent encoding

A character that may not stand in some part of a URL is written as its bytes, each as a percent sign
and two hexadecimal digits. Characters outside ASCII are always written so.
-/

namespace CollectionSql.Url

/-- A hexadecimal digit in upper case. -/
def upperHexDigit (n : Nat) : Char :=
  if n < 10 then Char.ofNat (n + '0'.toNat) else Char.ofNat (n - 10 + 'A'.toNat)

/-- A byte as a percent sign and two digits. -/
def percentByte (b : UInt8) : List Char :=
  ['%', upperHexDigit (b.toNat / 16), upperHexDigit (b.toNat % 16)]

/-- The control characters of ASCII. -/
def isControl (c : Char) : Bool := c.toNat < 0x20 || c.toNat == 0x7F

/-- The characters of ASCII that are encoded in a path with segments. -/
def isPathEncoded (c : Char) : Bool :=
  isControl c || [' ', '\x22', '#', '<', '>', '?', '\x60', '\x7b', '\x7d'].contains c

/-- A character, encoded if it is one of a set or outside ASCII. -/
def encodeChar (isEncoded : Char → Bool) (c : Char) : List Char :=
  if c.toNat < 0x80 && !isEncoded c then [c]
  else (Text.utf8 (String.ofList [c])).flatMap percentByte

/-- A text with the characters of a set encoded. -/
def encode (isEncoded : Char → Bool) (cs : List Char) : List Char :=
  cs.flatMap (encodeChar isEncoded)

/-- The bytes that encoded bytes stand for. A percent sign without two digits stands for itself. -/
def decodeBytes : List UInt8 → List UInt8
  | [] => []
  | [a] => [a]
  | [a, b] => [a, b]
  | a :: b :: c :: rest =>
    match if a = 0x25 then digits b c else none with
    | some byte => byte :: decodeBytes rest
    | none => a :: decodeBytes (b :: c :: rest)
where
  /-- The byte with two hexadecimal digits. -/
  digits (b c : UInt8) : Option UInt8 := do
    let high ← Json.hexValue (Char.ofNat b.toNat)
    let low ← Json.hexValue (Char.ofNat c.toNat)
    return UInt8.ofNat (high * 16 + low)

/-- The bytes of a text with its encoded bytes decoded. -/
def decode (cs : List Char) : List UInt8 := decodeBytes (Text.utf8 (String.ofList cs))

end CollectionSql.Url
