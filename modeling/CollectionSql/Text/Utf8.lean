/-!
# UTF-8

Bytes are decoded one at a time. What cannot be part of a character ends the character before it:
the longest run of bytes that could still have become a character counts as one fault, and decoding
goes on with the byte that did not fit. A strict reader refuses a text with faults, a lenient one
puts a replacement character in their place.
-/

namespace CollectionSql.Text

/-- A character of which some bytes are still missing: how many, the range of the next one, and the
bits read so far. -/
structure PartialChar where
  missing : Nat
  low : Nat
  high : Nat
  bits : Nat
deriving DecidableEq, Repr

/-- What a byte does between characters: it is a character, begins one, or is a fault. -/
inductive FirstByte where
  | complete (c : Char)
  | begins (p : PartialChar)
  | fault
deriving DecidableEq, Repr

/-- The byte after which a character begins. Overlong forms, surrogates and what lies beyond the
last code point are kept out by the range of the second byte. -/
def firstByte (b : Nat) : FirstByte :=
  if b < 0x80 then .complete (Char.ofNat b)
  else if b < 0xC2 then .fault
  else if b < 0xE0 then .begins ⟨1, 0x80, 0xBF, b - 0xC0⟩
  else if b < 0xF0 then
    .begins ⟨2, if b = 0xE0 then 0xA0 else 0x80, if b = 0xED then 0x9F else 0xBF, b - 0xE0⟩
  else if b < 0xF5 then
    .begins ⟨3, if b = 0xF0 then 0x90 else 0x80, if b = 0xF4 then 0x8F else 0xBF, b - 0xF0⟩
  else .fault

/-- Decodes bytes after a character that may be partly read; a fault is `none`. -/
def decodeFrom : Option PartialChar → List UInt8 → List (Option Char)
  | none, [] => []
  | some _, [] => [none]
  | none, b :: bs => start b.toNat (fun p => decodeFrom p bs)
  | some p, b :: bs =>
    let n := b.toNat
    if p.low ≤ n ∧ n ≤ p.high then
      let bits := p.bits * 64 + n % 64
      if p.missing = 1 then some (Char.ofNat bits) :: decodeFrom none bs
      else decodeFrom (some ⟨p.missing - 1, 0x80, 0xBF, bits⟩) bs
    else none :: start n (fun p => decodeFrom p bs)
where
  /-- A byte between characters, and what comes after it. -/
  start (n : Nat) (rest : Option PartialChar → List (Option Char)) : List (Option Char) :=
    match firstByte n with
    | .complete c => some c :: rest none
    | .begins p => rest (some p)
    | .fault => none :: rest none

/-- The characters and faults in a text. -/
def decode (bytes : List UInt8) : List (Option Char) := decodeFrom none bytes

/-- The text, if it has no fault. -/
def ofUtf8? (bytes : List UInt8) : Option String := ((decode bytes).mapM id).map String.ofList

/-- The character that takes the place of a fault. -/
def replacement : Char := '\uFFFD'

/-- The text with every fault replaced. -/
def ofUtf8Lossy (bytes : List UInt8) : String :=
  String.ofList ((decode bytes).map fun c => c.getD replacement)

/-- The bytes of a text. -/
def utf8 (s : String) : List UInt8 := s.toUTF8.data.toList

end CollectionSql.Text
