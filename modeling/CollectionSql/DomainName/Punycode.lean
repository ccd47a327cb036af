import CollectionSql.DomainName.Table

/-!
# Punycode

A label with characters beyond ASCII is written in ASCII: its ASCII characters, a hyphen if there
are any, and then numbers that tell which character comes next, in the order of code points, and
where. A number has digits of varying weight, and ends with the first digit below a threshold that
follows from the numbers before. Numbers must fit in thirty-two bits.

Main statement: `readNumber_length_lt`, reading a number leaves fewer digits.
-/

namespace CollectionSql.DomainName.Punycode

/-- The number of digits. -/
def base : Nat := 36

/-- The smallest threshold. -/
def minThreshold : Nat := 1

/-- The largest threshold. -/
def maxThreshold : Nat := 26

/-- The largest number. -/
def maxNumber : Nat := 0xFFFFFFFF

/-- The value of a digit: letters first, then decimal digits. -/
def digitValue? (c : Char) : Option Nat :=
  if 'a' ≤ c ∧ c ≤ 'z' then some (c.toNat - 'a'.toNat)
  else if 'A' ≤ c ∧ c ≤ 'Z' then some (c.toNat - 'A'.toNat)
  else if '0' ≤ c ∧ c ≤ '9' then some (c.toNat - '0'.toNat + 26)
  else none

/-- The threshold of the digit at a position, which counts in steps of the base. -/
def threshold (position bias : Nat) : Nat :=
  if position ≤ bias then minThreshold
  else if bias + maxThreshold ≤ position then maxThreshold
  else position - bias

/-- A number, if it fits. -/
def fitting (n : Nat) : Option Nat := if n ≤ maxNumber then some n else none

/-- Adds the number at the start of some digits to a sum. The result is the sum and what follows. -/
def readNumber (bias : Nat) : Nat → Nat → Nat → List Char → Option (Nat × List Char)
  | _, _, _, [] => none
  | position, weight, sum, c :: cs => do
    let digit ← digitValue? c
    let sum ← fitting (sum + digit * weight)
    let t := threshold position bias
    if digit < t then some (sum, cs)
    else readNumber bias (position + base) (← fitting (weight * (base - t))) sum cs

theorem readNumber_length_lt {bias position weight sum n : Nat} {cs rest : List Char}
    (h : readNumber bias position weight sum cs = some (n, rest)) : rest.length < cs.length := by
  induction cs generalizing position weight sum with
  | nil => simp [readNumber] at h
  | cons c cs ih =>
    simp only [readNumber, Option.bind_eq_bind, Option.bind_eq_some_iff] at h
    obtain ⟨digit, _, next, _, h⟩ := h
    split at h
    · simp only [Option.some.injEq, Prod.mk.injEq] at h
      simp [← h.2]
    · obtain ⟨w, _, h⟩ := Option.bind_eq_some_iff.mp h
      have := ih h
      simp only [List.length_cons]
      omega

/-- The bias after a number that has been scaled down, given the position reached. -/
def biasOf (delta position : Nat) : Nat :=
  if ((base - minThreshold) * maxThreshold) / 2 < delta then
    biasOf (delta / (base - minThreshold)) (position + base)
  else position + base * delta / (delta + 38)
termination_by delta
decreasing_by
  rename_i h
  simp only [base, minThreshold, maxThreshold] at h ⊢
  omega

/-- The bias after a number in a text of some length. The first number counts less. -/
def adapt (delta length : Nat) (first : Bool) : Nat :=
  let delta := if first then delta / 700 else delta / 2
  biasOf (delta + delta / length) 0

/-- A code point as a character. -/
def character? (n : Nat) : Option Char := if n.isValidChar then some (Char.ofNat n) else none

/-- Puts the characters that numbers tell of into a text. -/
def insertAll (text : List Char) (codePoint bias place : Nat) (cs : List Char) :
    Option (List Char) :=
  if cs = [] then some text
  else
    match h : readNumber bias base 1 place cs with
    | none => none
    | some (sum, rest) => do
      let length := text.length + 1
      let c ← character? (codePoint + sum / length)
      let place' := sum % length
      have : rest.length < cs.length := readNumber_length_lt h
      insertAll (text.take place' ++ c :: text.drop place') (codePoint + sum / length)
        (adapt (sum - place) length (place == 0)) (place' + 1) rest
termination_by cs.length

/-- The text before the last hyphen, and what follows it. A hyphen at the start does not count. -/
def splitBasic (cs : List Char) : List Char × List Char :=
  match (cs.reverse.dropWhile (· ≠ '-')).drop 1 with
  | [] => ([], cs)
  | before => (before.reverse, (cs.reverse.takeWhile (· ≠ '-')).reverse)

/-- The text that is written in Punycode. -/
def decode (cs : List Char) : Option (List Char) :=
  let (basic, digits) := splitBasic cs
  if basic.all isAscii then insertAll basic 0x80 72 0 digits else none

end CollectionSql.DomainName.Punycode
