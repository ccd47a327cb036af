import CollectionSql.Json.Basic

/-!
# JSON tokens

A text is split into tokens before its structure is looked at. Two leaves have a spelling without a
value: a number too large for binary64, and a string in which an escape names half of a surrogate
pair. Such a token is kept with no value, because a document may hold it where nobody reads it.

Main statement: `scanString_length_lt` and `scanNumber_length_lt`, each scanner leaves less than it
was given.
-/

namespace CollectionSql.Json

/-- A token of a JSON text. -/
inductive Token where
  | openArray
  | closeArray
  | openObject
  | closeObject
  | comma
  | colon
  | null
  | bool (value : Bool)
  | number (value : Option Number)
  | string (value : Option String)
deriving DecidableEq, Repr

/-! ## Strings -/

/-- The value of a hexadecimal digit in either case. -/
def hexValue (c : Char) : Option Nat :=
  if '0' ≤ c ∧ c ≤ '9' then some (c.toNat - '0'.toNat)
  else if 'a' ≤ c ∧ c ≤ 'f' then some (c.toNat - 'a'.toNat + 10)
  else if 'A' ≤ c ∧ c ≤ 'F' then some (c.toNat - 'A'.toNat + 10)
  else none

/-- The unit that four hexadecimal digits name. -/
def hexUnit (a b c d : Char) : Option Nat := do
  let a ← hexValue a
  let b ← hexValue b
  let c ← hexValue c
  let d ← hexValue d
  return ((a * 16 + b) * 16 + c) * 16 + d

/-- The character that a one-letter escape stands for. -/
def unescape : Char → Option Char
  | '"' => some '"'
  | '\\' => some '\\'
  | '/' => some '/'
  | 'b' => some '\x08'
  | 'f' => some '\x0c'
  | 'n' => some '\n'
  | 'r' => some '\r'
  | 't' => some '\t'
  | _ => none

/-- The rest of a string after its opening quote: its units up to the closing quote and what
follows. A character that stands for itself is one unit, whatever its size; an escape may name a
surrogate. -/
def scanString : List Char → Option (List Nat × List Char)
  | [] => none
  | '"' :: rest => some ([], rest)
  | '\\' :: 'u' :: a :: b :: c :: d :: rest => do
    let unit ← hexUnit a b c d
    let (units, rest) ← scanString rest
    return (unit :: units, rest)
  | '\\' :: e :: rest => do
    let c ← unescape e
    let (units, rest) ← scanString rest
    return (c.toNat :: units, rest)
  | c :: rest =>
    if c.toNat < 0x20 then none
    else do
      let (units, rest) ← scanString rest
      return (c.toNat :: units, rest)

/-- The first half of a surrogate pair. -/
def isHighSurrogate (u : Nat) : Bool := 0xD800 ≤ u && u < 0xDC00

/-- The second half of a surrogate pair. -/
def isLowSurrogate (u : Nat) : Bool := 0xDC00 ≤ u && u < 0xE000

/-- The characters that units stand for, each surrogate pair being one; `none` if a half stands
alone. -/
def charsOfUnits : List Nat → Option (List Char)
  | [] => some []
  | [u] => if isHighSurrogate u || isLowSurrogate u then none else some [Char.ofNat u]
  | u :: v :: rest =>
    if isHighSurrogate u then
      if isLowSurrogate v then do
        let cs ← charsOfUnits rest
        return Char.ofNat (0x10000 + (u - 0xD800) * 0x400 + (v - 0xDC00)) :: cs
      else none
    else if isLowSurrogate u then none
    else do
      let cs ← charsOfUnits (v :: rest)
      return Char.ofNat u :: cs

/-- Reading a string leaves less than it was given. -/
theorem scanString_length_lt {cs rest : List Char} {units : List Nat}
    (h : scanString cs = some (units, rest)) : rest.length < cs.length := by
  fun_induction scanString cs generalizing units rest with
  | case1 => simp at h
  | case2 => simp_all
  | case3 a b c d tail ih =>
    simp only [bind, Option.bind_eq_some_iff, pure, Option.some.injEq, Prod.mk.injEq,
      Prod.exists] at h
    obtain ⟨_, _, us, r, hs, _, rfl⟩ := h
    have := ih hs
    simp only [List.length_cons]
    omega
  | case4 e tail _ ih =>
    simp only [bind, Option.bind_eq_some_iff, pure, Option.some.injEq, Prod.mk.injEq,
      Prod.exists] at h
    obtain ⟨_, _, us, r, hs, _, rfl⟩ := h
    have := ih hs
    simp only [List.length_cons]
    omega
  | case5 => simp at h
  | case6 c tail _ _ _ _ ih =>
    simp only [bind, Option.bind_eq_some_iff, pure, Option.some.injEq, Prod.mk.injEq,
      Prod.exists] at h
    obtain ⟨us, r, hs, _, rfl⟩ := h
    have := ih hs
    simp only [List.length_cons]
    omega

/-! ## Numbers -/

/-- The natural number that decimal digits spell. -/
def natOfDigits (ds : List Char) : Nat := ds.foldl (fun n d => n * 10 + (d.toNat - '0'.toNat)) 0

/-- A run of digits and what follows it. -/
def scanDigits (cs : List Char) : List Char × List Char :=
  (cs.takeWhile Char.isDigit, cs.dropWhile Char.isDigit)

/-- The digits after a point, none if there is no point. A point needs a digit after it. -/
def scanFraction : List Char → Option (List Char × List Char)
  | '.' :: cs =>
    match scanDigits cs with
    | ([], _) => none
    | (ds, rest) => some (ds, rest)
  | cs => some ([], cs)

/-- The digits of an exponent, of which there is at least one. -/
def scanExponentDigits (negative : Bool) (cs : List Char) : Option (Option Int × List Char) :=
  match scanDigits cs with
  | ([], _) => none
  | (ds, rest) =>
    let n : Int := natOfDigits ds
    some (some (if negative then -n else n), rest)

/-- The exponent, if there is one. -/
def scanExponent : List Char → Option (Option Int × List Char)
  | e :: cs =>
    if e = 'e' ∨ e = 'E' then
      match cs with
      | '-' :: cs => scanExponentDigits true cs
      | '+' :: cs => scanExponentDigits false cs
      | cs => scanExponentDigits false cs
    else some (none, e :: cs)
  | [] => some (none, [])

/-- The number that a spelling stands for. Digits alone are an integer if it fits 64 bits, signed or
unsigned; minus zero, larger integers and every other spelling are the nearest binary64 number, and
there is none when that is infinite. -/
def numberOf (negative : Bool) (whole fraction : List Char) (exponent : Option Int) :
    Option Number :=
  let n := natOfDigits whole
  if fraction = [] ∧ exponent = none ∧ ¬negative ∧ n < 0x10000000000000000 then some (.integer n)
  else if fraction = [] ∧ exponent = none ∧ negative ∧ 0 < n ∧ n ≤ 0x8000000000000000 then
    some (.integer (-(n : Int)))
  else
    (Binary64.ofDecimal? negative (natOfDigits (whole ++ fraction))
      (exponent.getD 0 - fraction.length)).map .float

/-- The whole part: a zero on its own, or digits that do not start with one. -/
def scanWhole : List Char → Option (List Char × List Char)
  | '0' :: cs => some (['0'], cs)
  | cs =>
    match scanDigits cs with
    | ([], _) => none
    | (ds, rest) => some (ds, rest)

/-- A number after its sign. -/
def scanMagnitude (negative : Bool) (cs : List Char) : Option (Option Number × List Char) := do
  let (whole, cs) ← scanWhole cs
  let (fraction, cs) ← scanFraction cs
  let (exponent, cs) ← scanExponent cs
  return (numberOf negative whole fraction exponent, cs)

/-- A number with its sign. -/
def scanNumber : List Char → Option (Option Number × List Char)
  | '-' :: cs => scanMagnitude true cs
  | cs => scanMagnitude false cs

theorem scanDigits_length_le (cs : List Char) : (scanDigits cs).2.length ≤ cs.length :=
  (List.dropWhile_suffix _).length_le

theorem scanDigits_length_lt {cs ds rest : List Char} (h : scanDigits cs = (ds, rest))
    (hd : ds ≠ []) : rest.length < cs.length := by
  simp only [scanDigits, Prod.mk.injEq] at h
  obtain ⟨rfl, rfl⟩ := h
  have hsum := congrArg List.length (List.takeWhile_append_dropWhile (p := Char.isDigit) (l := cs))
  have hpos := List.length_pos_iff.2 hd
  rw [List.length_append] at hsum
  omega

theorem scanFraction_length_le {cs ds rest : List Char} (h : scanFraction cs = some (ds, rest)) :
    rest.length ≤ cs.length := by
  unfold scanFraction at h
  split at h
  · rename_i tail
    have hle := scanDigits_length_le tail
    split at h
    · simp at h
    · rename_i hd
      simp only [Option.some.injEq, Prod.mk.injEq] at h
      rw [hd, h.2] at hle
      exact Nat.le_succ_of_le hle
  · simp only [Option.some.injEq, Prod.mk.injEq] at h
    simp [h.2]

theorem scanExponentDigits_length_le {negative : Bool} {cs rest : List Char} {e : Option Int}
    (h : scanExponentDigits negative cs = some (e, rest)) : rest.length ≤ cs.length := by
  unfold scanExponentDigits at h
  have hle := scanDigits_length_le cs
  split at h
  · simp at h
  · rename_i hd
    simp only [Option.some.injEq, Prod.mk.injEq] at h
    rw [hd, h.2] at hle
    exact hle

theorem scanExponent_length_le {cs rest : List Char} {e : Option Int}
    (h : scanExponent cs = some (e, rest)) : rest.length ≤ cs.length := by
  unfold scanExponent at h
  split at h
  · split at h
    · split at h <;>
      · have := scanExponentDigits_length_le h
        simp only [List.length_cons] at *
        omega
    · simp only [Option.some.injEq, Prod.mk.injEq] at h
      simp [← h.2]
  · simp only [Option.some.injEq, Prod.mk.injEq] at h
    simp [← h.2]

theorem scanWhole_length_lt {cs ds rest : List Char} (h : scanWhole cs = some (ds, rest)) :
    rest.length < cs.length := by
  unfold scanWhole at h
  split at h
  · simp only [Option.some.injEq, Prod.mk.injEq] at h
    simp [h.2]
  · split at h
    · simp at h
    · rename_i ds' rest' hne hd
      simp only [Option.some.injEq, Prod.mk.injEq] at h
      obtain ⟨rfl, rfl⟩ := h
      exact scanDigits_length_lt hd (fun e => hne e)

theorem scanMagnitude_length_lt {negative : Bool} {cs rest : List Char} {n : Option Number}
    (h : scanMagnitude negative cs = some (n, rest)) : rest.length < cs.length := by
  simp only [scanMagnitude, bind, Option.bind_eq_some_iff, pure, Option.some.injEq,
    Prod.mk.injEq, Prod.exists] at h
  obtain ⟨_, _, hw, _, _, hf, _, _, he, _, rfl⟩ := h
  have h1 := scanWhole_length_lt hw
  have h2 := scanFraction_length_le hf
  have h3 := scanExponent_length_le he
  omega

/-- Reading a number leaves less than it was given. -/
theorem scanNumber_length_lt {cs rest : List Char} {n : Option Number}
    (h : scanNumber cs = some (n, rest)) : rest.length < cs.length := by
  unfold scanNumber at h
  split at h
  · have := scanMagnitude_length_lt h
    simp only [List.length_cons]
    omega
  · exact scanMagnitude_length_lt h

/-! ## Texts -/

/-- The blanks that may stand between tokens. -/
def isBlank (c : Char) : Bool := c == ' ' || c == '\t' || c == '\n' || c == '\r'

/-- The tokens of a text, `none` if some part of it is not a token. -/
def tokens (cs : List Char) : Option (List Token) :=
  match cs with
  | [] => some []
  | '[' :: rest => (tokens rest).map (.openArray :: ·)
  | ']' :: rest => (tokens rest).map (.closeArray :: ·)
  | '{' :: rest => (tokens rest).map (.openObject :: ·)
  | '}' :: rest => (tokens rest).map (.closeObject :: ·)
  | ',' :: rest => (tokens rest).map (.comma :: ·)
  | ':' :: rest => (tokens rest).map (.colon :: ·)
  | 'n' :: 'u' :: 'l' :: 'l' :: rest => (tokens rest).map (.null :: ·)
  | 't' :: 'r' :: 'u' :: 'e' :: rest => (tokens rest).map (.bool true :: ·)
  | 'f' :: 'a' :: 'l' :: 's' :: 'e' :: rest => (tokens rest).map (.bool false :: ·)
  | '"' :: rest =>
    match h : scanString rest with
    | none => none
    | some (units, after) =>
      have := scanString_length_lt h
      (tokens after).map (.string ((charsOfUnits units).map String.ofList) :: ·)
  | c :: rest =>
    if isBlank c then tokens rest
    else
      match h : scanNumber (c :: rest) with
      | none => none
      | some (n, after) =>
        have := scanNumber_length_lt h
        (tokens after).map (.number n :: ·)
termination_by cs.length
decreasing_by all_goals simp_all <;> omega

end CollectionSql.Json
