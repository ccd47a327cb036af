import Mathlib.Data.Nat.Digits.Defs
import CollectionSql.Json.Printer
import CollectionSql.Json.Tree

/-!
# Printed JSON is read back

A value that is printed, in either layout, is read back as the tree of that value. The proof goes
through the tokens of a value (`tokensOf`): printing a value writes its tokens with blanks between
them, and the tokens build its tree. Only a number has no end of its own, so what follows a value
must not go on with one (`Ends`).

Numbers are integers of 64 bits here (`Integral`). Nothing is asked of strings: what a string may
not hold as it is, the printer escapes.

Results:
* `parts`: a value and all values inside it.
* `scanNumber_integerText`, `scanString_flatMap`: printed numbers and strings are scanned back.
* `tokens_render`: a printed value has the tokens of the value.
* `Tree.run_tokensOf`: the tokens of a value build its tree.
* `Tree.parse?_render`: a printed value is read as its tree.
-/

namespace CollectionSql

/-- An integer that 64 bits hold, with or without a sign. -/
def Number.IsInteger64 : Number → Prop
  | .integer n => -0x8000000000000000 ≤ n ∧ n < 0x10000000000000000
  | .float _ => False

namespace Json

/-! ## The parts of a value -/

/-- A property of values holds if every constructor keeps it. -/
@[elab_as_elim]
theorem induction {P : Json → Prop} (null : P .null) (bool : ∀ b, P (.bool b))
    (number : ∀ n, P (.number n)) (string : ∀ s, P (.string s))
    (array : ∀ items, (∀ j ∈ items, P j) → P (.array items))
    (object : ∀ members : List (String × Json), (∀ m ∈ members, P m.2) → P (.object members))
    (j : Json) : P j := by
  refine @Json.rec P (fun items => ∀ j ∈ items, P j) (fun members => ∀ m ∈ members, P m.2)
    (fun m => P m.2) null bool number string array object (List.forall_mem_nil _) ?_
    (List.forall_mem_nil _) ?_ (fun _ _ h => h) j
  all_goals exact fun _ _ hfirst hrest => List.forall_mem_cons.mpr ⟨hfirst, hrest⟩

mutual

/-- A value and all values inside it. -/
def parts : Json → List Json
  | .null => [.null]
  | .bool b => [.bool b]
  | .number n => [.number n]
  | .string s => [.string s]
  | .array items => .array items :: partsOfItems items
  | .object members => .object members :: partsOfMembers members

/-- All values inside the items of an array. -/
def partsOfItems : List Json → List Json
  | [] => []
  | j :: js => j.parts ++ partsOfItems js

/-- All values inside the members of an object. -/
def partsOfMembers : List (String × Json) → List Json
  | [] => []
  | (_, j) :: ms => j.parts ++ partsOfMembers ms

end

theorem partsOfItems_eq (items : List Json) : partsOfItems items = items.flatMap parts := by
  induction items with
  | nil => rfl
  | cons j js ih => rw [partsOfItems, ih, List.flatMap_cons]

theorem partsOfMembers_eq (members : List (String × Json)) :
    partsOfMembers members = members.flatMap fun m => m.2.parts := by
  induction members with
  | nil => rfl
  | cons m ms ih => rw [partsOfMembers, ih, List.flatMap_cons]

/-- All numbers of a value are integers that 64 bits hold. -/
def Integral (j : Json) : Prop := ∀ n, .number n ∈ j.parts → n.IsInteger64

/-- The keys of each object of a value are all different. -/
def Distinct (j : Json) : Prop := ∀ members, .object members ∈ j.parts → (Dict.keys members).Nodup

theorem integral_number {n : Number} : (number n).Integral ↔ n.IsInteger64 := by
  simp [Integral, parts]

section

variable {P : Number → Prop}

theorem forall_number_array {items : List Json} : (∀ n, .number n ∈ (array items).parts → P n) ↔
    ∀ j ∈ items, ∀ n, .number n ∈ j.parts → P n := by
  simp only [parts, partsOfItems_eq, List.mem_cons, reduceCtorEq, false_or, List.mem_flatMap]
  exact ⟨fun h j hj n hn => h n ⟨j, hj, hn⟩, fun h n ⟨j, hj, hn⟩ => h j hj n hn⟩

theorem forall_number_object {members : List (String × Json)} :
    (∀ n, .number n ∈ (object members).parts → P n) ↔
      ∀ m ∈ members, ∀ n, .number n ∈ m.2.parts → P n := by
  simp only [parts, partsOfMembers_eq, List.mem_cons, reduceCtorEq, false_or, List.mem_flatMap]
  exact ⟨fun h m hm n hn => h n ⟨m, hm, hn⟩, fun h n ⟨m, hm, hn⟩ => h m hm n hn⟩

end

theorem integral_array {items : List Json} : (array items).Integral ↔ ∀ j ∈ items, j.Integral :=
  forall_number_array

theorem integral_object {members : List (String × Json)} :
    (object members).Integral ↔ ∀ m ∈ members, m.2.Integral :=
  forall_number_object

theorem distinct_array {items : List Json} : (array items).Distinct ↔ ∀ j ∈ items, j.Distinct := by
  simp only [Distinct, parts, partsOfItems_eq, List.mem_cons, reduceCtorEq, false_or,
    List.mem_flatMap]
  exact ⟨fun h j hj ms hms => h ms ⟨j, hj, hms⟩, fun h ms ⟨j, hj, hms⟩ => h j hj ms hms⟩

theorem distinct_object {members : List (String × Json)} :
    (object members).Distinct ↔ (Dict.keys members).Nodup ∧ ∀ m ∈ members, m.2.Distinct := by
  simp only [Distinct, parts, partsOfMembers_eq, List.mem_cons, object.injEq, List.mem_flatMap]
  constructor
  · exact fun h => ⟨h members (.inl rfl), fun m hm ms hms => h ms (.inr ⟨m, hm, hms⟩)⟩
  · rintro ⟨hown, hinner⟩ ms (rfl | ⟨m, hm, hms⟩)
    · exact hown
    · exact hinner m hm ms hms

/-! ## Numbers -/

/-- A text that does not go on with a number. -/
def Ends (rest : List Char) : Prop :=
  ∀ c, rest.head? = some c → c.isDigit = false ∧ c ∉ ['.', 'e', 'E']

theorem ends_nil : Ends [] := fun _ h => nomatch h

theorem ends_cons {c : Char} (hdigit : c.isDigit = false) (hc : c ∉ ['.', 'e', 'E'])
    (rest : List Char) : Ends (c :: rest) := by
  intro d hd
  cases hd
  exact ⟨hdigit, hc⟩

/-- A text that does not go on with a digit. -/
def EndsDigits (rest : List Char) : Prop := ∀ c, rest.head? = some c → c.isDigit = false

theorem Ends.digits {rest : List Char} (h : Ends rest) : EndsDigits rest := fun c hc => (h c hc).1

theorem scanDigits_append {ds rest : List Char} (hds : ∀ c ∈ ds, c.isDigit)
    (hrest : EndsDigits rest) : scanDigits (ds ++ rest) = (ds, rest) := by
  have hstop : rest.takeWhile Char.isDigit = [] ∧ rest.dropWhile Char.isDigit = rest := by
    cases rest with
    | nil => exact ⟨rfl, rfl⟩
    | cons c cs => simp [hrest c rfl]
  rw [scanDigits, List.takeWhile_append_of_pos hds, List.dropWhile_append_of_pos hds, hstop.1,
    hstop.2, List.append_nil]

theorem scanFraction_of_ends {rest : List Char} (h : Ends rest) :
    scanFraction rest = some ([], rest) := by
  unfold scanFraction
  split
  · exact absurd List.mem_cons_self (h '.' rfl).2
  · rfl

theorem scanExponent_of_ends {rest : List Char} (h : Ends rest) :
    scanExponent rest = some (none, rest) := by
  unfold scanExponent
  split
  · next e cs =>
    have he := (h e rfl).2
    rw [if_neg (by rintro (rfl | rfl) <;> simp at he)]
  · rfl

theorem natOfDigits_digitsOf (n : Nat) : natOfDigits (digitsOf n) = n := by
  have h := Nat.ofDigitChars_toDigits (b := 10) (n := n) (by decide) (by decide)
  rw [Nat.ofDigitChars_eq_foldl] at h
  simpa only [natOfDigits, digitsOf, Nat.mul_comm] using h

theorem exists_digitsOf_eq_cons (n : Nat) : ∃ d ds, digitsOf n = d :: ds ∧ d.isDigit := by
  obtain ⟨d, ds, hds⟩ := List.exists_cons_of_ne_nil (Nat.toDigits_ne_nil (n := n) (b := 10))
  exact ⟨d, ds, hds, isDigit_of_mem_digitsOf (hds ▸ List.mem_cons_self)⟩

/-- The digits of a number that is not zero do not start with a zero. -/
theorem head?_digitsOf_ne {n : Nat} (hn : 0 < n) : (digitsOf n).head? ≠ some '0' := by
  induction n using Nat.strongRecOn with
  | ind n ih =>
    rw [digitsOf, Nat.toDigits_eq_if (by decide)]
    split
    · next hlt =>
      have hdigit : ∀ d : Nat, d < 10 → 0 < d → d.digitChar ≠ '0' := by decide
      simpa using hdigit n hlt hn
    · next hge =>
      obtain ⟨d, ds, hds, -⟩ := exists_digitsOf_eq_cons (n / 10)
      have hfirst := ih (n / 10) (by omega) (by omega)
      rw [hds] at hfirst
      rw [← digitsOf, hds]
      exact hfirst

/-- Digits that do not start with a zero are a whole part. -/
theorem scanWhole_append {ds rest : List Char} (hne : ds ≠ []) (hfirst : ds.head? ≠ some '0')
    (hds : ∀ c ∈ ds, c.isDigit) (hrest : EndsDigits rest) :
    scanWhole (ds ++ rest) = some (ds, rest) := by
  obtain ⟨d, tail, rfl⟩ := List.exists_cons_of_ne_nil hne
  have hscan := scanDigits_append hds hrest
  have hd : d ≠ '0' := by
    rintro rfl
    exact hfirst rfl
  rw [List.cons_append] at hscan ⊢
  rw [scanWhole.eq_2 _ (fun cs h => hd (List.cons.inj h).1), hscan]

theorem scanWhole_digitsOf (n : Nat) {rest : List Char} (hrest : EndsDigits rest) :
    scanWhole (digitsOf n ++ rest) = some (digitsOf n, rest) := by
  rcases Nat.eq_zero_or_pos n with rfl | hn
  · rfl
  · exact scanWhole_append Nat.toDigits_ne_nil (head?_digitsOf_ne hn)
      (fun c hc => isDigit_of_mem_digitsOf hc) hrest

/-- A printed integer is scanned back. -/
theorem scanNumber_integerText {n : Int} (hn : (Number.integer n).IsInteger64) {rest : List Char}
    (hrest : Ends rest) :
    scanNumber (integerText n ++ rest) = some (some (.integer n), rest) := by
  have hmagnitude : ∀ negative, scanMagnitude negative (digitsOf n.natAbs ++ rest) =
      some (numberOf negative (digitsOf n.natAbs) [] none, rest) := by
    intro negative
    simp [scanMagnitude, scanWhole_digitsOf _ hrest.digits, scanFraction_of_ends hrest,
      scanExponent_of_ends hrest]
  obtain ⟨hmin, hmax⟩ := hn
  rw [integerText]
  split
  · next hneg =>
    have habs : ((n.natAbs : Nat) : Int) = -n := by omega
    have hfits : 0 < n.natAbs ∧ n.natAbs ≤ 0x8000000000000000 := by omega
    rw [List.cons_append, scanNumber, hmagnitude]
    simp [numberOf, natOfDigits_digitsOf, hfits, habs]
  · next hneg =>
    have habs : ((n.natAbs : Nat) : Int) = n := by omega
    have hfits : n.natAbs < 0x10000000000000000 := by omega
    obtain ⟨d, ds, hds, hd⟩ := exists_digitsOf_eq_cons n.natAbs
    have hscan : scanNumber (digitsOf n.natAbs ++ rest) =
        scanMagnitude false (digitsOf n.natAbs ++ rest) := by
      refine scanNumber.eq_2 _ fun cs h => ?_
      rw [hds] at h
      obtain ⟨rfl, -⟩ := List.cons.inj h
      cases hd
    rw [hscan, hmagnitude]
    simp [numberOf, natOfDigits_digitsOf, hfits, habs]

/-! ## Strings -/

theorem hexValue_hexDigit {n : Nat} (h : n < 16) : hexValue (hexDigit n) = some n := by
  have hall : ∀ n : Nat, n < 16 → hexValue (hexDigit n) = some n := by decide
  exact hall n h

theorem scanString_letter {e c : Char} (h : unescape e = some c) (rest : List Char) :
    scanString ('\\' :: e :: rest) =
      (scanString rest).map fun read => (c.toNat :: read.1, read.2) := by
  have hne : e ≠ 'u' := by
    rintro rfl
    cases h
  rw [scanString.eq_4 e rest fun _ _ _ _ _ he => absurd he hne, h]
  exact bind_pure_comp (m := Option) _ _

theorem scanString_unit {c : Char} (h : c.toNat < 0x20) (rest : List Char) :
    scanString (['\\', 'u', '0', '0', hexDigit (c.toNat / 16), hexDigit (c.toNat % 16)] ++ rest) =
      (scanString rest).map fun read => (c.toNat :: read.1, read.2) := by
  have hhex : hexUnit '0' '0' (hexDigit (c.toNat / 16)) (hexDigit (c.toNat % 16)) =
      some c.toNat := by
    have hzero : hexValue '0' = some 0 := rfl
    simp only [hexUnit, hzero, hexValue_hexDigit (show c.toNat / 16 < 16 by omega),
      hexValue_hexDigit (show c.toNat % 16 < 16 by omega), Option.bind_eq_bind, Option.bind_some,
      Option.pure_def, Option.some.injEq]
    omega
  simp only [List.cons_append, List.nil_append]
  rw [scanString.eq_3, hhex]
  exact bind_pure_comp (m := Option) _ _

/-- What is written for a character is scanned as that character. -/
theorem scanString_escaped (c : Char) (rest : List Char) :
    scanString (escaped c ++ rest) =
      (scanString rest).map fun read => (c.toNat :: read.1, read.2) := by
  unfold escaped
  by_cases h1 : c = '"'
  · rw [if_pos h1, h1]
    exact scanString_letter rfl rest
  by_cases h2 : c = '\\'
  · rw [if_neg h1, if_pos h2, h2]
    exact scanString_letter rfl rest
  rw [if_neg h1, if_neg h2]
  by_cases h3 : c = '\x08'
  · rw [if_pos h3, h3]
    exact scanString_letter rfl rest
  by_cases h4 : c = '\x0c'
  · rw [if_neg h3, if_pos h4, h4]
    exact scanString_letter rfl rest
  rw [if_neg h3, if_neg h4]
  by_cases h5 : c = '\n'
  · rw [if_pos h5, h5]
    exact scanString_letter rfl rest
  by_cases h6 : c = '\r'
  · rw [if_neg h5, if_pos h6, h6]
    exact scanString_letter rfl rest
  rw [if_neg h5, if_neg h6]
  by_cases h7 : c = '\t'
  · rw [if_pos h7, h7]
    exact scanString_letter rfl rest
  by_cases h8 : c.toNat < 0x20
  · rw [if_neg h7, if_pos h8]
    exact scanString_unit h8 rest
  · rw [if_neg h7, if_neg h8, List.singleton_append, scanString.eq_5 c rest h1
      (fun _ _ _ _ _ h => absurd h h2) fun _ _ h => absurd h h2, if_neg h8]
    exact bind_pure_comp (m := Option) _ _

/-- A character is no half of a surrogate pair. -/
theorem not_surrogate (c : Char) :
    isHighSurrogate c.toNat = false ∧ isLowSurrogate c.toNat = false := by
  have hvalid : c.toNat < 0xD800 ∨ 0xDFFF < c.toNat ∧ c.toNat < 0x110000 := c.valid
  simp only [isHighSurrogate, isLowSurrogate, Bool.and_eq_false_iff, decide_eq_false_iff_not]
  omega

theorem charsOfUnits_cons (c : Char) (units : List Nat) :
    charsOfUnits (c.toNat :: units) = (charsOfUnits units).map (c :: ·) := by
  obtain ⟨hhigh, hlow⟩ := not_surrogate c
  cases units with
  | nil => simp [charsOfUnits, hhigh, hlow, Char.ofNat_toNat]
  | cons v rest =>
    rw [charsOfUnits, hhigh, hlow]
    simp only [Bool.false_eq_true, if_false, Char.ofNat_toNat]
    cases charsOfUnits (v :: rest) <;> rfl

theorem charsOfUnits_map (cs : List Char) : charsOfUnits (cs.map Char.toNat) = some cs := by
  induction cs with
  | nil => rfl
  | cons c cs ih => rw [List.map_cons, charsOfUnits_cons, ih, Option.map_some]

/-- A printed string is scanned back, after its opening quote. -/
theorem scanString_flatMap (cs rest : List Char) :
    scanString (cs.flatMap escaped ++ '"' :: rest) = some (cs.map Char.toNat, rest) := by
  induction cs with
  | nil => rw [List.flatMap_nil, List.nil_append, scanString, List.map_nil]
  | cons c cs ih =>
    rw [List.flatMap_cons, List.append_assoc, scanString_escaped, ih]
    rfl

/-! ## Tokens -/

mutual

/-- The tokens of a value. -/
def tokensOf : Json → List Token
  | .null => [.null]
  | .bool b => [.bool b]
  | .number n => [.number (some n)]
  | .string s => [.string (some s)]
  | .array [] => [.openArray, .closeArray]
  | .array (x :: xs) => .openArray :: (tokensOf x ++ tokensOfItems xs ++ [.closeArray])
  | .object [] => [.openObject, .closeObject]
  | .object ((k, v) :: ms) =>
    .openObject :: .string (some k) :: .colon ::
      (tokensOf v ++ tokensOfMembers ms ++ [.closeObject])

/-- The tokens of the items after the first, each with the comma before it. -/
def tokensOfItems : List Json → List Token
  | [] => []
  | x :: xs => .comma :: (tokensOf x ++ tokensOfItems xs)

/-- The tokens of the members after the first, each with the comma before it. -/
def tokensOfMembers : List (String × Json) → List Token
  | [] => []
  | (k, v) :: ms =>
    .comma :: .string (some k) :: .colon :: (tokensOf v ++ tokensOfMembers ms)

end

theorem tokens_string (s : String) (rest : List Char) :
    tokens (stringText s ++ rest) = (tokens rest).map (.string (some s) :: ·) := by
  have hscan : scanString (s.toList.flatMap escaped ++ ['"'] ++ rest) =
      some (s.toList.map Char.toNat, rest) := by
    rw [List.append_assoc]
    exact scanString_flatMap s.toList rest
  rw [stringText, List.cons_append, tokens]
  split
  · next h => rw [hscan] at h; cases h
  · next units after h =>
    rw [hscan] at h
    cases h
    rw [charsOfUnits_map, Option.map_some, String.ofList_toList]

theorem tokens_number {c : Char} {cs after : List Char} {n : Option Number}
    (hc : c = '-' ∨ c.isDigit) (h : scanNumber (c :: cs) = some (n, after)) :
    tokens (c :: cs) = (tokens after).map (.number n :: ·) := by
  have hne : ∀ d : Char, d ≠ '-' → d.isDigit = false → c ≠ d := by
    rintro d hd hdigit rfl
    rcases hc with rfl | hc
    · exact hd rfl
    · rw [hdigit] at hc
      cases hc
  have hblank : isBlank c = false := by simp [isBlank, hne]
  rw [tokens.eq_12 c cs (hne _ (by decide) rfl) (hne _ (by decide) rfl) (hne _ (by decide) rfl)
    (hne _ (by decide) rfl) (hne _ (by decide) rfl) (hne _ (by decide) rfl)
    (fun _ h => absurd h (hne _ (by decide) rfl)) (fun _ h => absurd h (hne _ (by decide) rfl))
    (fun _ h => absurd h (hne _ (by decide) rfl)) (hne _ (by decide) rfl), hblank]
  simp only [Bool.false_eq_true, if_false]
  split
  · next hnone => rw [h] at hnone; cases hnone
  · next hsome =>
    rw [h] at hsome
    cases hsome
    rfl

theorem tokens_integerText {n : Int} (hn : (Number.integer n).IsInteger64) {rest : List Char}
    (hrest : Ends rest) :
    tokens (integerText n ++ rest) = (tokens rest).map (.number (some (.integer n)) :: ·) := by
  have hscan := scanNumber_integerText hn hrest
  have hfirst : ∃ c cs, integerText n = c :: cs ∧ (c = '-' ∨ c.isDigit) := by
    rw [integerText]
    split
    · exact ⟨_, _, rfl, .inl rfl⟩
    · obtain ⟨d, ds, hds, hd⟩ := exists_digitsOf_eq_cons n.natAbs
      exact ⟨d, ds, hds, .inr hd⟩
  obtain ⟨c, cs, htext, hc⟩ := hfirst
  rw [htext, List.cons_append] at hscan ⊢
  exact tokens_number hc hscan

/-! ## Blanks -/

/-- A text of blanks. -/
def IsBlankText (cs : List Char) : Prop := ∀ c ∈ cs, isBlank c

/-- A layout that adds blanks only. -/
structure Layout.AddsBlanks (l : Layout) : Prop where
  lineStart : ∀ depth, IsBlankText (l.lineStart depth)
  afterColon : IsBlankText l.afterColon

theorem compactLayout_addsBlanks : compactLayout.AddsBlanks :=
  ⟨fun _ => List.forall_mem_nil _, List.forall_mem_nil _⟩

theorem prettyLayout_addsBlanks : prettyLayout.AddsBlanks := by
  refine ⟨fun depth => List.forall_mem_cons.mpr ⟨rfl, fun c hc => ?_⟩, ?_⟩
  · rw [List.eq_of_mem_replicate hc]
    rfl
  · exact List.forall_mem_singleton.mpr rfl

theorem tokens_blanks {bs : List Char} (hbs : IsBlankText bs) (rest : List Char) :
    tokens (bs ++ rest) = tokens rest := by
  induction bs with
  | nil => rfl
  | cons b bs ih =>
    obtain ⟨hb, hrest⟩ := List.forall_mem_cons.mp hbs
    have hb' := hb
    simp only [isBlank, Bool.or_eq_true, beq_iff_eq] at hb'
    rw [List.cons_append, ← ih hrest]
    rcases hb' with ((rfl | rfl) | rfl) | rfl <;> simp [tokens, isBlank]

theorem ends_blanks {bs : List Char} (hbs : IsBlankText bs) {rest : List Char}
    (hrest : Ends rest) : Ends (bs ++ rest) := by
  cases bs with
  | nil => exact hrest
  | cons b bs =>
    have hb := (List.forall_mem_cons.mp hbs).1
    simp only [isBlank, Bool.or_eq_true, beq_iff_eq] at hb
    rcases hb with ((rfl | rfl) | rfl) | rfl <;> exact ends_cons rfl (by decide) _

/-! ## Printed values -/

section

variable {l : Layout}

theorem ends_renderItems (depth : Nat) (xs : List Json) {rest : List Char} (hrest : Ends rest) :
    Ends (renderItems l depth xs ++ rest) := by
  cases xs with
  | nil => exact hrest
  | cons x xs => exact ends_cons rfl (by decide) _

theorem ends_renderMembers (depth : Nat) (ms : List (String × Json)) {rest : List Char}
    (hrest : Ends rest) : Ends (renderMembers l depth ms ++ rest) := by
  cases ms with
  | nil => exact hrest
  | cons m ms => exact ends_cons rfl (by decide) _

/-- The text of a value, at any depth and before any end, has the tokens of the value. -/
def Tokenizes (l : Layout) (j : Json) : Prop :=
  ∀ depth rest, Ends rest → tokens (render l depth j ++ rest) = (tokens rest).map (tokensOf j ++ ·)

theorem tokens_renderItems (hl : l.AddsBlanks) {xs : List Json} (hxs : ∀ j ∈ xs, Tokenizes l j)
    (depth : Nat) {rest : List Char} (hrest : Ends rest) :
    tokens (renderItems l depth xs ++ rest) = (tokens rest).map (tokensOfItems xs ++ ·) := by
  induction xs with
  | nil => simp [renderItems, tokensOfItems]
  | cons x xs ih =>
    obtain ⟨hx, hxs⟩ := List.forall_mem_cons.mp hxs
    simp only [renderItems, List.cons_append, List.append_assoc, tokens]
    rw [tokens_blanks (hl.lineStart depth), hx depth _ (ends_renderItems depth xs hrest), ih hxs]
    simp [tokensOfItems, Function.comp_def]

/-- A key, its colon and its value. -/
theorem tokens_member (hl : l.AddsBlanks) {v : Json} (hv : Tokenizes l v) (depth : Nat) (k : String)
    {rest : List Char} (hrest : Ends rest) :
    tokens (stringText k ++ ':' :: (l.afterColon ++ (render l depth v ++ rest))) =
      (tokens rest).map (.string (some k) :: .colon :: tokensOf v ++ ·) := by
  rw [tokens_string, tokens, tokens_blanks hl.afterColon, hv depth _ hrest]
  simp [Function.comp_def]

theorem tokens_renderMembers (hl : l.AddsBlanks) {ms : List (String × Json)}
    (hms : ∀ m ∈ ms, Tokenizes l m.2) (depth : Nat) {rest : List Char} (hrest : Ends rest) :
    tokens (renderMembers l depth ms ++ rest) = (tokens rest).map (tokensOfMembers ms ++ ·) := by
  induction ms with
  | nil => simp [renderMembers, tokensOfMembers]
  | cons m ms ih =>
    obtain ⟨k, v⟩ := m
    obtain ⟨hv, hms⟩ := List.forall_mem_cons.mp hms
    simp only [renderMembers, List.cons_append, List.append_assoc, tokens]
    rw [tokens_blanks (hl.lineStart depth),
      tokens_member hl hv depth k (ends_renderMembers depth ms hrest), ih hms]
    simp [tokensOfMembers, Function.comp_def]

/-- A printed value has the tokens of the value. -/
theorem tokens_render (hl : l.AddsBlanks) {j : Json} (hj : j.Integral) : Tokenizes l j := by
  induction j using Json.induction with
  | null => intro depth rest _; simp [render, tokens, tokensOf]
  | bool b => intro depth rest _; cases b <;> simp [render, tokens, tokensOf]
  | number n =>
    intro depth rest hrest
    have hn := integral_number.mp hj
    cases n with
    | integer n => exact tokens_integerText hn hrest
    | float x => cases hn
  | string s => intro depth rest _; exact tokens_string s rest
  | array items ih =>
    intro depth rest hrest
    have hitems : ∀ j ∈ items, Tokenizes l j :=
      fun j hmem => ih j hmem (integral_array.mp hj j hmem)
    have hends : Ends (l.lineStart depth ++ ']' :: rest) :=
      ends_blanks (hl.lineStart depth) (ends_cons rfl (by decide) _)
    cases items with
    | nil => simp [render, tokens, tokensOf, Function.comp_def]
    | cons x xs =>
      obtain ⟨hx, hxs⟩ := List.forall_mem_cons.mp hitems
      simp only [render, List.cons_append, List.append_assoc, List.nil_append, tokens]
      rw [tokens_blanks (hl.lineStart _), hx _ _ (ends_renderItems _ xs hends),
        tokens_renderItems hl hxs _ hends, tokens_blanks (hl.lineStart _), tokens]
      simp [tokensOf, Function.comp_def]
  | object members ih =>
    intro depth rest hrest
    have hmembers : ∀ m ∈ members, Tokenizes l m.2 :=
      fun m hmem => ih m hmem (integral_object.mp hj m hmem)
    have hends : Ends (l.lineStart depth ++ '}' :: rest) :=
      ends_blanks (hl.lineStart depth) (ends_cons rfl (by decide) _)
    cases members with
    | nil => simp [render, tokens, tokensOf, Function.comp_def]
    | cons m ms =>
      obtain ⟨k, v⟩ := m
      obtain ⟨hv, hms⟩ := List.forall_mem_cons.mp hmembers
      simp only [render, List.cons_append, List.append_assoc, List.nil_append, tokens]
      rw [tokens_blanks (hl.lineStart _),
        tokens_member hl hv _ k (ends_renderMembers _ ms hends),
        tokens_renderMembers hl hms _ hends, tokens_blanks (hl.lineStart _), tokens]
      simp [tokensOf, Function.comp_def]

end

/-! ## From tokens to the tree -/

namespace Tree

theorem run_cons (s : State) (t : Token) (ts : List Token) :
    run s (t :: ts) = (step s t).bind fun s' => run s' ts :=
  List.foldlM_cons

theorem run_append (s : State) (ts us : List Token) :
    run s (ts ++ us) = (run s ts).bind fun s' => run s' us :=
  List.foldlM_append

theorem ofItems_eq (items : List Json) : ofItems items = items.map ofJson := by
  induction items with
  | nil => rfl
  | cons j js ih => rw [ofItems, ih, List.map_cons]

theorem ofMembers_eq (members : List (String × Json)) :
    ofMembers members = members.map fun m => (some m.1, ofJson m.2) := by
  induction members with
  | nil => rfl
  | cons m ms ih => rw [ofMembers, ih, List.map_cons]

/-- The tokens of a value, read where a value is expected, build its tree. -/
def Builds (j : Json) : Prop :=
  ∀ frames, run ⟨.value, frames⟩ (tokensOf j) = some ⟨.rest (ofJson j), frames⟩

theorem run_tokensOfItems {xs : List Json} (hxs : ∀ j ∈ xs, Builds j) (last : Tree)
    (before : List Tree) (frames : List Frame) :
    run ⟨.rest last, .array before :: frames⟩ (tokensOfItems xs ++ [.closeArray]) =
      some ⟨.rest (.array (before.reverse ++ last :: ofItems xs)), frames⟩ := by
  induction xs generalizing last before with
  | nil => simp [tokensOfItems, ofItems, run, step]
  | cons x xs ih =>
    obtain ⟨hx, hxs⟩ := List.forall_mem_cons.mp hxs
    have hcomma : step ⟨.rest last, .array before :: frames⟩ .comma =
        some ⟨.value, .array (last :: before) :: frames⟩ := rfl
    rw [tokensOfItems, List.cons_append, List.append_assoc, run_cons, hcomma, Option.bind_some,
      run_append, hx, Option.bind_some, ih hxs]
    simp [ofItems]

theorem run_tokensOfMembers {ms : List (String × Json)} (hms : ∀ m ∈ ms, Builds m.2)
    (key : Option String) (last : Tree) (before : List (Option String × Tree))
    (frames : List Frame) :
    run ⟨.rest last, .object before key :: frames⟩ (tokensOfMembers ms ++ [.closeObject]) =
      some ⟨.rest (.object (before.reverse ++ (key, last) :: ofMembers ms)), frames⟩ := by
  induction ms generalizing key last before with
  | nil => simp [tokensOfMembers, ofMembers, run, step]
  | cons m ms ih =>
    obtain ⟨k, v⟩ := m
    obtain ⟨hv, hms⟩ := List.forall_mem_cons.mp hms
    have hkey : run ⟨.rest last, .object before key :: frames⟩
        [.comma, .string (some k), .colon] =
        some ⟨.value, .object ((key, last) :: before) (some k) :: frames⟩ := rfl
    have hsplit : tokensOfMembers ((k, v) :: ms) ++ [.closeObject] =
        [.comma, .string (some k), .colon] ++
          (tokensOf v ++ (tokensOfMembers ms ++ [.closeObject])) := by
      simp [tokensOfMembers]
    rw [hsplit, run_append, hkey, Option.bind_some, run_append, hv, Option.bind_some, ih hms]
    simp [ofMembers]

/-- No value starts with the end of an array. -/
theorem head?_tokensOf_ne (j : Json) : (tokensOf j).head? ≠ some .closeArray := by
  cases j with
  | array items => cases items <;> simp [tokensOf]
  | object members => cases members <;> simp [tokensOf]
  | null | bool | number | string => simp [tokensOf]

/-- An item may come first in an array as it may come after a comma. -/
theorem run_itemOrEnd {ts : List Token} (hts : ts.head? ≠ some .closeArray) (hne : ts ≠ [])
    (frames : List Frame) :
    run ⟨.itemOrEnd, frames⟩ ts = run ⟨.value, .array [] :: frames⟩ ts := by
  cases ts with
  | nil => exact absurd rfl hne
  | cons t ts =>
    have hstep : step ⟨.itemOrEnd, frames⟩ t = step ⟨.value, .array [] :: frames⟩ t := by
      cases t with
      | closeArray => exact absurd rfl hts
      | _ => rfl
    rw [run_cons, hstep, run_cons]

/-- The tokens of a value build its tree. -/
theorem run_tokensOf (j : Json) : Builds j := by
  induction j using Json.induction with
  | null | bool | number | string => intro frames; rfl
  | array items ih =>
    intro frames
    cases items with
    | nil => rfl
    | cons x xs =>
      obtain ⟨hx, hxs⟩ := List.forall_mem_cons.mp ih
      have hfirst : (tokensOf x).head? ≠ some .closeArray := head?_tokensOf_ne x
      have hopen : step ⟨.value, frames⟩ .openArray = some ⟨.itemOrEnd, frames⟩ := rfl
      have hne : tokensOf x ≠ [] := by
        intro h
        have := hx frames
        rw [h] at this
        cases this
      rw [tokensOf, run_cons, hopen, Option.bind_some, List.append_assoc, run_append,
        run_itemOrEnd hfirst hne, hx, Option.bind_some, run_tokensOfItems hxs, List.reverse_nil,
        List.nil_append, ofJson, ofItems]
  | object members ih =>
    intro frames
    cases members with
    | nil => rfl
    | cons m ms =>
      obtain ⟨k, v⟩ := m
      obtain ⟨hv, hms⟩ := List.forall_mem_cons.mp ih
      have hopen : run ⟨.value, frames⟩ [.openObject, .string (some k), .colon] =
          some ⟨.value, .object [] (some k) :: frames⟩ := rfl
      have hsplit : tokensOf (.object ((k, v) :: ms)) =
          [.openObject, .string (some k), .colon] ++
            (tokensOf v ++ (tokensOfMembers ms ++ [.closeObject])) := by
        simp [tokensOf]
      rw [hsplit, run_append, hopen, Option.bind_some, run_append, hv, Option.bind_some,
        run_tokensOfMembers hms, List.reverse_nil, List.nil_append, ofJson, ofMembers]

/-- A printed value is read as its tree. -/
theorem parse?_render {l : Layout} (hl : l.AddsBlanks) {j : Json} (hj : j.Integral) :
    parse? (String.ofList (render l 0 j)) = some (ofJson j) := by
  have htokens : tokens (render l 0 j) = some (tokensOf j) := by
    have h := tokens_render hl hj 0 [] ends_nil
    simpa [tokens] using h
  rw [parse?, String.toList_ofList, htokens, Option.bind_eq_bind, Option.bind_some,
    run_tokensOf j [], Option.bind_eq_bind, Option.bind_some]

end Tree

end Json

end CollectionSql
