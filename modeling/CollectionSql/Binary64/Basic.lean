/-!
# Binary64 numbers

A binary64 number is its 64 bits. The fields of the interchange format are read off the bits with
natural-number arithmetic, so that nothing here depends on the machine's floating point unit.

A finite number has the magnitude `significand · 2 ^ scale`, and `ofRatio?` is rounding to nearest,
ties to even, of an exact quotient.
-/

namespace CollectionSql

/-- A binary64 number, given by its bits. -/
structure Binary64 where
  bits : UInt64
deriving DecidableEq, Repr

namespace Binary64

/-- A power of two. -/
def twoTo (n : Nat) : Nat := Nat.pow 2 n

/-- A power of ten. -/
def tenTo (n : Nat) : Nat := Nat.pow 10 n

/-- The weight of the sign bit. -/
def signWeight : Nat := twoTo 63

/-- The weight of the lowest exponent bit: the number of fractions that share an exponent. -/
def binade : Nat := twoTo 52

/-- The least power of two that a significand is multiplied by. -/
def minScale : Int := -1074

/-- Whether the sign bit is set. -/
def isNegative (x : Binary64) : Bool := signWeight ≤ x.bits.toNat

/-- The biased exponent. -/
def exponentField (x : Binary64) : Nat := x.bits.toNat / binade % 2048

/-- The stored fraction, without the leading bit of a normal number. -/
def fraction (x : Binary64) : Nat := x.bits.toNat % binade

/-- Neither an infinity nor a NaN. -/
def isFinite (x : Binary64) : Bool := x.exponentField != 2047

/-- Not a number: the exponent of infinity with a fraction. -/
def isNaN (x : Binary64) : Bool := x.exponentField == 2047 && x.fraction != 0

/-- The integer that a finite number is a power of two times. -/
def significand (x : Binary64) : Nat :=
  if x.exponentField = 0 then x.fraction else binade + x.fraction

/-- The power of two that goes with the significand. -/
def scale (x : Binary64) : Int := minScale + (max x.exponentField 1 - 1 : Nat)

/-- The number with the given sign and remaining 63 bits. -/
def ofMagnitude (negative : Bool) (magnitude : Nat) : Binary64 :=
  ⟨UInt64.ofNat (if negative then signWeight + magnitude else magnitude)⟩

/-- The 63 bits of infinity, one more than those of the largest finite number. -/
def infiniteMagnitude : Nat := 2047 * binade

/-- An infinity. -/
def infinity (negative : Bool) : Binary64 := ofMagnitude negative infiniteMagnitude

/-- A zero. -/
def zero (negative : Bool) : Binary64 := ofMagnitude negative 0

/-- The quotient rounded to the nearest integer, a half to the even neighbour. -/
def roundHalfEven (num den : Nat) : Nat :=
  let q := num / den
  let r := num % den
  if 2 * r < den then q
  else if den < 2 * r then q + 1
  else q + q % 2

/-- `num / den · 2 ^ (-s)` as a fraction. -/
def shiftRatio (num den : Nat) (s : Int) : Nat × Nat :=
  (num * twoTo (-s).toNat, den * twoTo s.toNat)

/-- The power of two that leaves a quotient with 53 bits before the point, or the least one there
is if that is larger. -/
def scaleOfRatio (num den : Nat) : Int :=
  let guess : Int := (Nat.log2 num : Int) - (Nat.log2 den : Int) - 52
  let (a, b) := shiftRatio num den guess
  max minScale (if a / b < binade then guess - 1 else guess)

/-- The binary64 number nearest to `num / den`, a tie going to the even significand; `none` when
the quotient is too large for a finite number. A carry out of the significand is a carry into the
exponent, because the bits of the next binade follow those of this one. -/
def ofRatio? (negative : Bool) (num den : Nat) : Option Binary64 :=
  if num = 0 then some (zero negative)
  else
    let s := scaleOfRatio num den
    let (a, b) := shiftRatio num den s
    let magnitude := (s - minScale).toNat * binade + roundHalfEven a b
    if magnitude < infiniteMagnitude then some (ofMagnitude negative magnitude) else none

/-- The number of decimal digits of `n`. -/
def decimalWidth (n : Nat) : Nat := (Nat.toDigits 10 n).length

/-- The binary64 number nearest to `± digits · 10 ^ exponent`; `none` when it is too large. The two
bounds on the width keep the powers of ten small: beyond them the answer is already decided. -/
def ofDecimal? (negative : Bool) (digits : Nat) (exponent : Int) : Option Binary64 :=
  if digits = 0 then some (zero negative)
  else
    let top : Int := decimalWidth digits + exponent
    if 320 < top then none
    else if top < -340 then some (zero negative)
    else ofRatio? negative (digits * tenTo exponent.toNat) (tenTo (-exponent).toNat)

end Binary64

end CollectionSql
