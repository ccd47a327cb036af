import Mathlib.Algebra.Order.Field.Rat
import Mathlib.Tactic.FieldSimp
import Mathlib.Tactic.Linarith
import Mathlib.Tactic.NormNum
import Mathlib.Tactic.Positivity
import Mathlib.Tactic.Ring
import CollectionSql.Proofs.JsonText

/-!
# Different numbers have different texts

The text of a finite binary64 number is a decimal that lies in its rounding interval, and the
rounding intervals of two numbers have no point in common. So the text of a number belongs to no
other number, although it is as short as it can be and in general not the exact value.

An interval is read here as a set of rationals (`Covers`), which makes the two grids of the search,
powers of ten and powers of two, comparable. Two intervals that follow each other can only share an
end, and an end belongs to an interval only if the significand is even; of two neighbours in one
binade one is odd, and the last significand of a binade is odd too (`high_le_low`).

The search for the digits always ends with a hit: the number is below `10 ^ 399`, and a grid of
`10 ^ -400` is finer than the gap between any two numbers.

Results:
* `RoundingInterval.covers_of_onGrid`: what the search finds on a grid lies in the interval.
* `eq_of_covers`: a point lies in the rounding interval of one magnitude only.
* `covers_shortest`: the search has a hit.
* `Written.spelled?`: the text of a magnitude spells a decimal in its interval.
* `text_injective`: different finite numbers have different texts.
-/

namespace CollectionSql.Binary64

open Json

/-! ## Intervals of rationals -/

/-- A power as the quotient of two powers with exponents that are not negative. -/
theorem zpow_mul_pow_toNat {b : ℚ} (hb : b ≠ 0) (n : Int) :
    b ^ n * b ^ (-n).toNat = b ^ n.toNat := by
  have hsum : n + ((-n).toNat : Int) = (n.toNat : Int) := by omega
  rw [← zpow_natCast, ← zpow_add₀ hb, hsum, zpow_natCast]

namespace RoundingInterval

/-- The rationals that lie in an interval. -/
def Covers (i : RoundingInterval) (q : ℚ) : Prop :=
  if i.closed then i.low * 2 ^ i.scale ≤ q ∧ q ≤ i.high * 2 ^ i.scale
  else i.low * 2 ^ i.scale < q ∧ q < i.high * 2 ^ i.scale

theorem Covers.low_le {i : RoundingInterval} {q : ℚ} (h : i.Covers q) :
    i.low * 2 ^ i.scale ≤ q := by
  unfold Covers at h
  split at h
  · exact h.1
  · exact h.1.le

theorem Covers.le_high {i : RoundingInterval} {q : ℚ} (h : i.Covers q) :
    q ≤ i.high * 2 ^ i.scale := by
  unfold Covers at h
  split at h
  · exact h.2
  · exact h.2.le

/-- Only a closed interval has its ends in it. -/
theorem Covers.closed_of_end {i : RoundingInterval} {q : ℚ} (h : i.Covers q)
    (hend : q = i.low * 2 ^ i.scale ∨ q = i.high * 2 ^ i.scale) : i.closed = true := by
  unfold Covers at h
  split at h
  · next hclosed => exact hclosed
  · rcases hend with hq | hq
    · exact absurd hq h.1.ne'
    · exact absurd hq h.2.ne

/-- A multiple of a power of ten against a multiple of the unit, in natural numbers and in
rationals. -/
theorem grid_eq (k s : Int) :
    ((tenTo k.toNat * twoTo (-s).toNat : Nat) : ℚ) * 2 ^ s =
      10 ^ k * (tenTo (-k).toNat * twoTo s.toNat : Nat) := by
  have hten := zpow_mul_pow_toNat (b := 10) (by norm_num) k
  have htwo := zpow_mul_pow_toNat (b := 2) (by norm_num) s
  simp only [tenTo, twoTo, Nat.pow_eq, Nat.cast_mul, Nat.cast_pow, Nat.cast_ofNat]
  calc (10 : ℚ) ^ k.toNat * 2 ^ (-s).toNat * 2 ^ s
      = 10 ^ k.toNat * (2 ^ s * 2 ^ (-s).toNat) := by ring
    _ = 10 ^ k * (10 ^ (-k).toNat * 2 ^ s.toNat) := by rw [htwo, ← hten]; ring

theorem contains_iff (i : RoundingInterval) (k : Int) (digits : Nat) :
    i.contains (digits * (tenTo k.toNat * twoTo (-i.scale).toNat))
      (tenTo (-k).toNat * twoTo i.scale.toNat) = true ↔ i.Covers (digits * 10 ^ k) := by
  have hgrid := grid_eq k i.scale
  have hunit : (0 : ℚ) < 2 ^ i.scale := zpow_pos (by norm_num) _
  have hden : (0 : ℚ) < (tenTo (-k).toNat * twoTo i.scale.toNat : Nat) := by
    have hpos : 0 < tenTo (-k).toNat * twoTo i.scale.toNat :=
      Nat.mul_pos (Nat.pow_pos (by decide)) (Nat.pow_pos (by decide))
    exact_mod_cast hpos
  generalize tenTo (-k).toNat * twoTo i.scale.toNat = den at *
  generalize tenTo k.toNat * twoTo (-i.scale).toNat = unit at *
  -- both sides of each comparison times `2 ^ scale`, and divided by the denominator
  have hpoint : ((digits * unit : Nat) : ℚ) * 2 ^ i.scale = digits * 10 ^ k * den := by
    rw [Nat.cast_mul, mul_assoc, hgrid]
    ring
  have hbound : ∀ e : Nat, ((e * den : Nat) : ℚ) * 2 ^ i.scale = e * 2 ^ i.scale * den := by
    intro e
    rw [Nat.cast_mul]
    ring
  have hle : ∀ e : Nat, e * den ≤ digits * unit ↔ (e : ℚ) * 2 ^ i.scale ≤ digits * 10 ^ k := by
    intro e
    rw [← Nat.cast_le (α := ℚ), ← mul_le_mul_iff_left₀ hunit, hpoint, hbound,
      mul_le_mul_iff_left₀ hden]
  have hge : ∀ e : Nat, digits * unit ≤ e * den ↔ (digits : ℚ) * 10 ^ k ≤ e * 2 ^ i.scale := by
    intro e
    rw [← Nat.cast_le (α := ℚ), ← mul_le_mul_iff_left₀ hunit, hpoint, hbound,
      mul_le_mul_iff_left₀ hden]
  unfold contains Covers
  split
  · simp only [Bool.and_eq_true, decide_eq_true_eq, hle, hge]
  · simp only [Bool.and_eq_true, decide_eq_true_eq, ← not_le, hle, hge]

/-- What is found on a grid lies in the interval. -/
theorem covers_of_onGrid {i : RoundingInterval} {k : Int} {digits : Nat}
    (h : i.onGrid k = some digits) : i.Covers (digits * 10 ^ k) := by
  rw [← contains_iff]
  unfold onGrid at h
  simp only at h
  split at h
  · next hdown hup =>
    -- of two hits one is taken
    split at h
    · cases h
      exact hdown
    split at h
    · cases h
      exact hup
    cases h
    rcases Nat.mod_two_eq_zero_or_one (i.value * (tenTo (-k).toNat * twoTo i.scale.toNat) /
      (tenTo k.toNat * twoTo (-i.scale).toNat)) with heven | hodd
    · rw [heven]
      exact hdown
    · rw [hodd]
      exact hup
  · next hdown _ =>
    cases h
    exact hdown
  · next _ hup =>
    cases h
    exact hup
  · cases h

/-- A grid finer than the unit has a point in an interval that reaches a unit to both sides. -/
theorem isSome_onGrid {i : RoundingInterval} {k : Int} (hlow : i.low < i.value)
    (hhigh : i.value < i.high)
    (hfine : tenTo k.toNat * twoTo (-i.scale).toNat ≤ tenTo (-k).toNat * twoTo i.scale.toNat) :
    (i.onGrid k).isSome := by
  have hunit : 0 < tenTo k.toNat * twoTo (-i.scale).toNat :=
    Nat.mul_pos (Nat.pow_pos (by decide)) (Nat.pow_pos (by decide))
  unfold onGrid
  simp only
  generalize tenTo (-k).toNat * twoTo i.scale.toNat = den at *
  generalize tenTo k.toNat * twoTo (-i.scale).toNat = unit at *
  have hdiv : i.value * den / unit * unit + i.value * den % unit = i.value * den :=
    Nat.div_add_mod' _ _
  have hrest : i.value * den % unit < unit := Nat.mod_lt _ hunit
  have hbelow : i.low * den + den ≤ i.value * den := by
    rw [← Nat.succ_mul]
    exact Nat.mul_le_mul_right den hlow
  have habove : i.value * den + den ≤ i.high * den := by
    rw [← Nat.succ_mul]
    exact Nat.mul_le_mul_right den hhigh
  have hcontains : i.contains (i.value * den / unit * unit) den = true := by
    unfold contains
    split <;> simp only [Bool.and_eq_true, decide_eq_true_eq] <;> omega
  rw [hcontains]
  split
  · split
    · rfl
    split <;> rfl
  · rfl
  · rfl
  · contradiction

end RoundingInterval

/-! ## One magnitude for each point -/

theorem binade_eq : binade = 4503599627370496 := rfl

theorem significand_lt (x : Binary64) : x.significand < 2 * binade := by
  have hfraction : x.fraction < binade := Nat.mod_lt _ (by decide)
  unfold significand
  split <;> omega

theorem minScale_le_scale (x : Binary64) : minScale ≤ x.scale := by
  unfold scale
  omega

/-- The significand of a number that is not among the smallest has all its bits. -/
theorem binade_le_significand {x : Binary64} (h : minScale < x.scale) :
    binade ≤ x.significand := by
  unfold scale at h
  unfold significand
  rw [if_neg (by omega)]
  omega

/-- The bits of a number count the significands of all smaller magnitudes. -/
theorem bits_eq (x : Binary64) :
    x.bits.toNat = (if x.isNegative then signWeight else 0) +
      (x.scale - minScale).toNat * binade + x.significand := by
  have hbits := x.bits.toNat_lt
  have hscale : (x.scale - minScale).toNat = max x.exponentField 1 - 1 := by
    unfold scale
    omega
  have hsign : x.isNegative = true ↔ 9223372036854775808 ≤ x.bits.toNat := decide_eq_true_iff
  have hweight : signWeight = 9223372036854775808 := rfl
  rw [hscale, significand, exponentField, fraction, hweight, binade_eq]
  by_cases hnegative : x.isNegative = true
  · have hlarge := hsign.mp hnegative
    rw [if_pos hnegative]
    split <;> omega
  · have hsmall := mt hsign.mpr hnegative
    rw [if_neg hnegative]
    split <;> omega

/-- A number is given by its sign, its significand and its scale. -/
theorem eq_of_fields {x y : Binary64} (hsign : x.isNegative = y.isNegative)
    (hsignificand : x.significand = y.significand) (hscale : x.scale = y.scale) : x = y := by
  have hbits : x.bits.toNat = y.bits.toNat := by
    rw [bits_eq x, bits_eq y, hsign, hsignificand, hscale]
  obtain ⟨xbits⟩ := x
  obtain ⟨ybits⟩ := y
  exact congrArg Binary64.mk (UInt64.toNat_inj.mp hbits)

/-- The interval of a number ends where that of a larger magnitude begins, or before. Where the two
meet, one of them is open: two neighbours in a binade are not both even, and the last significand of
a binade is odd. -/
theorem high_le_low {x y : Binary64}
    (h : x.scale < y.scale ∨ x.scale = y.scale ∧ x.significand < y.significand) :
    x.roundingInterval.high ≤ y.roundingInterval.low * 2 ^ (y.scale - x.scale).toNat ∧
      (x.roundingInterval.high = y.roundingInterval.low * 2 ^ (y.scale - x.scale).toNat →
        ¬(x.roundingInterval.closed = true ∧ y.roundingInterval.closed = true)) := by
  have hmax := x.significand_lt
  have hmin := x.minScale_le_scale
  simp only [roundingInterval, beq_iff_eq]
  rcases h with hlt | ⟨heq, hlt⟩
  · have hfull := binade_le_significand (x := y) (by omega)
    have hlow : 4 * binade - 1 ≤
        4 * y.significand - if y.significand = binade ∧ minScale < y.scale then 1 else 2 := by
      split <;> omega
    generalize (4 * y.significand -
      if y.significand = binade ∧ minScale < y.scale then 1 else 2) = low at *
    have hshift : 2 ^ 1 ≤ 2 ^ (y.scale - x.scale).toNat :=
      Nat.pow_le_pow_right (by decide) (by omega)
    have htwice : low * 2 ≤ low * 2 ^ (y.scale - x.scale).toNat := Nat.mul_le_mul_left low hshift
    rw [binade_eq] at *
    omega
  · have hshift : (y.scale - x.scale).toNat = 0 := by omega
    rw [hshift, pow_zero, mul_one]
    split <;> omega

/-- A point lies in the interval of no smaller magnitude. -/
theorem not_covers_of_lt {x y : Binary64} {q : ℚ}
    (h : x.scale < y.scale ∨ x.scale = y.scale ∧ x.significand < y.significand)
    (hx : x.roundingInterval.Covers q) (hy : y.roundingInterval.Covers q) : False := by
  obtain ⟨hle, hmeet⟩ := high_le_low h
  have hunit : (2 : ℚ) ^ y.roundingInterval.scale =
      2 ^ (y.scale - x.scale).toNat * 2 ^ x.roundingInterval.scale := by
    have hsum : (y.roundingInterval.scale : Int) =
        ((y.scale - x.scale).toNat : Int) + x.roundingInterval.scale := by
      simp only [roundingInterval]
      omega
    rw [hsum, zpow_add₀ (by norm_num), zpow_natCast]
  have hpos : (0 : ℚ) < 2 ^ x.roundingInterval.scale := zpow_pos (by norm_num) _
  have hbegin : (y.roundingInterval.low : ℚ) * 2 ^ y.roundingInterval.scale =
      (y.roundingInterval.low * 2 ^ (y.scale - x.scale).toNat : Nat) *
        2 ^ x.roundingInterval.scale := by
    rw [hunit]
    push_cast
    ring
  have hends : (x.roundingInterval.high : ℚ) * 2 ^ x.roundingInterval.scale ≤
      y.roundingInterval.low * 2 ^ y.roundingInterval.scale := by
    rw [hbegin]
    exact mul_le_mul_of_nonneg_right (Nat.cast_le.mpr hle) hpos.le
  -- the point is the end of the one interval and the beginning of the other
  have hlast : q = x.roundingInterval.high * 2 ^ x.roundingInterval.scale :=
    le_antisymm hx.le_high (hends.trans hy.low_le)
  have hfirst : q = y.roundingInterval.low * 2 ^ y.roundingInterval.scale :=
    le_antisymm (hx.le_high.trans hends) hy.low_le
  refine hmeet ?_ ⟨hx.closed_of_end (.inr hlast), hy.closed_of_end (.inl hfirst)⟩
  rw [hlast, hbegin] at hfirst
  exact Nat.cast_injective (mul_right_cancel₀ hpos.ne' hfirst)

/-- A point lies in the rounding interval of one magnitude only. -/
theorem eq_of_covers {x y : Binary64} {q : ℚ} (hx : x.roundingInterval.Covers q)
    (hy : y.roundingInterval.Covers q) :
    x.significand = y.significand ∧ x.scale = y.scale := by
  by_contra hne
  have horder : (x.scale < y.scale ∨ x.scale = y.scale ∧ x.significand < y.significand) ∨
      (y.scale < x.scale ∨ y.scale = x.scale ∧ y.significand < x.significand) := by
    omega
  rcases horder with h | h
  · exact not_covers_of_lt h hx hy
  · exact not_covers_of_lt h hy hx

/-! ## The search has a hit -/

theorem scale_le {x : Binary64} (hx : x.isFinite = true) : x.scale ≤ 971 := by
  have hfield : x.exponentField < 2048 := Nat.mod_lt _ (by decide)
  have hne : x.exponentField ≠ 2047 := by simpa [isFinite] using hx
  simp only [scale, minScale]
  omega

/-- The first grid is at most at `10 ^ 399`. -/
theorem decimalWidth_le {x : Binary64} (hx : x.isFinite = true) :
    decimalWidth (x.significand * twoTo x.scale.toNat) ≤ 399 := by
  have hscale := scale_le hx
  rw [decimalWidth, Nat.length_toDigits_le_iff (by decide) (by decide)]
  calc x.significand * twoTo x.scale.toNat
      < 2 * binade * 2 ^ x.scale.toNat :=
        Nat.mul_lt_mul_of_pos_right x.significand_lt (Nat.pow_pos (by decide))
    _ ≤ 2 * binade * 2 ^ 971 :=
        Nat.mul_le_mul_left _ (Nat.pow_le_pow_right (by decide) (by omega))
    _ ≤ 10 ^ 399 := by decide +kernel

/-- The grid of `10 ^ -400` is finer than the unit of every interval. -/
theorem isSome_onGrid_finest {x : Binary64} (hpos : 0 < x.significand) :
    (x.roundingInterval.onGrid (-400)).isSome := by
  have hmin := x.minScale_le_scale
  have hscale : x.roundingInterval.scale = x.scale - 2 := rfl
  refine RoundingInterval.isSome_onGrid ?_ ?_ ?_
  · simp only [roundingInterval]
    split <;> omega
  · simp only [roundingInterval]
    omega
  · have hunit : (-x.roundingInterval.scale).toNat ≤ 1076 := by
      rw [hscale]
      simp only [minScale] at hmin
      omega
    calc tenTo (-400 : Int).toNat * twoTo (-x.roundingInterval.scale).toNat
        = 2 ^ (-x.roundingInterval.scale).toNat := by
          rw [show (-400 : Int).toNat = 0 by decide]
          simp [tenTo, twoTo]
      _ ≤ 2 ^ 1076 := Nat.pow_le_pow_right (by decide) hunit
      _ ≤ tenTo 400 := by decide +kernel
      _ ≤ tenTo (-(-400) : Int).toNat * twoTo x.roundingInterval.scale.toNat :=
        Nat.le_mul_of_pos_right (tenTo 400) (Nat.pow_pos (by decide))

/-- The shortest decimal of a number lies in its rounding interval. -/
theorem covers_shortest {x : Binary64} (hx : x.isFinite = true) (hpos : 0 < x.significand) :
    x.roundingInterval.Covers (x.shortest.1 * 10 ^ x.shortest.2) := by
  have hwidth := decimalWidth_le hx
  have hsome : ((List.range gridCount).findSome? fun (step : Nat) =>
      (x.roundingInterval.onGrid
        ((decimalWidth (x.significand * twoTo x.scale.toNat) : Int) - step)).map fun digits =>
          (digits, (decimalWidth (x.significand * twoTo x.scale.toNat) : Int) - step)).isSome := by
    rw [List.findSome?_isSome_iff]
    refine ⟨decimalWidth (x.significand * twoTo x.scale.toNat) + 400, ?_, ?_⟩
    · rw [List.mem_range, gridCount]
      omega
    · rw [Option.isSome_map]
      have hk : (decimalWidth (x.significand * twoTo x.scale.toNat) : Int) -
          (decimalWidth (x.significand * twoTo x.scale.toNat) + 400 : Nat) = -400 := by
        omega
      rw [hk]
      exact isSome_onGrid_finest hpos
  obtain ⟨hit, hhit⟩ := Option.isSome_iff_exists.mp hsome
  have hshortest : x.shortest = hit := by
    simp only [shortest, hhit, Option.getD_some]
  obtain ⟨step, -, hstep⟩ := List.exists_of_findSome?_eq_some hhit
  obtain ⟨digits, hdigits, rfl⟩ := Option.map_eq_some_iff.mp hstep
  rw [hshortest]
  exact RoundingInterval.covers_of_onGrid hdigits

/-- No interval of a number that is not zero reaches down to zero. -/
theorem pos_of_covers {x : Binary64} (hpos : 0 < x.significand) {q : ℚ}
    (h : x.roundingInterval.Covers q) : 0 < q := by
  have hlow : 0 < x.roundingInterval.low := by
    simp only [roundingInterval]
    split <;> omega
  refine lt_of_lt_of_le ?_ h.low_le
  exact mul_pos (Nat.cast_pos.mpr hlow) (zpow_pos (by norm_num) _)

/-! ## The text of a decimal -/

/-- The decimal that a spelling without a sign stands for, exactly. -/
def spelled? (cs : List Char) : Option ℚ := do
  let (whole, cs) ← scanWhole cs
  let (fraction, cs) ← scanFraction cs
  let (exponent, _) ← scanExponent cs
  return natOfDigits (whole ++ fraction) * 10 ^ (exponent.getD 0 - fraction.length)

theorem spelled?_minus (cs : List Char) : spelled? ('-' :: cs) = none := rfl

theorem natOfDigits_append (ds es : List Char) :
    natOfDigits (ds ++ es) = natOfDigits ds * 10 ^ es.length + natOfDigits es := by
  induction es using List.reverseRecOn with
  | nil => simp [natOfDigits]
  | append_singleton es e ih =>
    have hlast : ∀ cs : List Char,
        natOfDigits (cs ++ [e]) = natOfDigits cs * 10 + (e.toNat - '0'.toNat) := by
      intro cs
      simp [natOfDigits]
    rw [← List.append_assoc, hlast, ih, hlast, List.length_append, List.length_singleton, pow_succ]
    ring

theorem natOfDigits_replicate_zero (n : Nat) : natOfDigits (List.replicate n '0') = 0 := by
  induction n with
  | zero => rfl
  | succ n ih =>
    rw [List.replicate_succ', natOfDigits_append, ih]
    rfl

theorem natOfDigits_zeros_append (n : Nat) (ds : List Char) :
    natOfDigits (List.replicate n '0' ++ ds) = natOfDigits ds := by
  rw [natOfDigits_append, natOfDigits_replicate_zero, Nat.zero_mul, Nat.zero_add]

theorem natOfDigits_append_zeros (ds : List Char) (n : Nat) :
    natOfDigits (ds ++ List.replicate n '0') = natOfDigits ds * 10 ^ n := by
  rw [natOfDigits_append, natOfDigits_replicate_zero, List.length_replicate, Nat.add_zero]

/-- A whole part, a fraction and an exponent that are scanned one after the other. -/
theorem spelled?_eq {cs whole fraction afterWhole afterFraction rest : List Char}
    {exponent : Option Int} (hwhole : scanWhole cs = some (whole, afterWhole))
    (hfraction : scanFraction afterWhole = some (fraction, afterFraction))
    (hexponent : scanExponent afterFraction = some (exponent, rest)) :
    spelled? cs = some ((natOfDigits (whole ++ fraction) : ℚ) *
      10 ^ (exponent.getD 0 - fraction.length : Int)) := by
  simp [spelled?, hwhole, hfraction, hexponent]

/-- Digits after a point are a fraction. -/
theorem scanFraction_append {ds rest : List Char} (hne : ds ≠ []) (hds : ∀ c ∈ ds, c.isDigit)
    (hrest : EndsDigits rest) : scanFraction ('.' :: (ds ++ rest)) = some (ds, rest) := by
  rw [scanFraction, scanDigits_append hds hrest]
  obtain ⟨d, tail, rfl⟩ := List.exists_cons_of_ne_nil hne
  rfl

/-- So they are at the end of a text. -/
theorem scanFraction_point {ds : List Char} (hne : ds ≠ []) (hds : ∀ c ∈ ds, c.isDigit) :
    scanFraction ('.' :: ds) = some (ds, []) := by
  have h := scanFraction_append hne hds ends_nil.digits
  rwa [List.append_nil] at h

/-- A signed power of ten is an exponent. -/
theorem scanExponent_signed (e : Int) :
    scanExponent ('e' :: (if e < 0 then '-' else '+') :: digitsOf e.natAbs) =
      some (some e, []) := by
  have hdigits : ∀ negative, scanExponentDigits negative (digitsOf e.natAbs) =
      some (some (if negative then -(e.natAbs : Int) else e.natAbs), []) := by
    intro negative
    have hscan := scanDigits_append (fun c hc => isDigit_of_mem_digitsOf (n := e.natAbs) hc)
      ends_nil.digits
    rw [List.append_nil] at hscan
    obtain ⟨d, ds, hds, -⟩ := exists_digitsOf_eq_cons e.natAbs
    have hvalue := natOfDigits_digitsOf e.natAbs
    rw [hds] at hscan hvalue ⊢
    simp only [scanExponentDigits, hscan, hvalue]
  by_cases he : e < 0
  · have habs : -(e.natAbs : Int) = e := by omega
    simp only [scanExponent, he, hdigits, habs, true_or, if_true]
  · have habs : (e.natAbs : Int) = e := by omega
    simp only [scanExponent, he, hdigits, habs, true_or, if_true, if_false, Bool.false_eq_true]

theorem endsDigits_cons {c : Char} (hc : c.isDigit = false) (rest : List Char) :
    EndsDigits (c :: rest) := by
  rintro d ⟨⟩
  exact hc

theorem isDigit_of_mem_zeros {n : Nat} {c : Char} (hc : c ∈ List.replicate n '0') : c.isDigit := by
  rw [List.eq_of_mem_replicate hc]
  rfl

/-- The digits of a number, the first of which is not a zero. -/
structure Numeral (ds : List Char) (v : Nat) : Prop where
  ne_nil : ds ≠ []
  digits : ∀ c ∈ ds, c.isDigit
  first : ds.head? ≠ some '0'
  value : natOfDigits ds = v

theorem numeral_digitsOf {v : Nat} (hv : 0 < v) : Numeral (digitsOf v) v where
  ne_nil := Nat.toDigits_ne_nil
  digits := fun _ hc => isDigit_of_mem_digitsOf hc
  first := head?_digitsOf_ne hv
  value := natOfDigits_digitsOf v

namespace Numeral

variable {ds : List Char} {v : Nat}

/-- Zeros between the point and the digits. -/
theorem spelled?_zeros_append (h : Numeral ds v) (n : Nat) :
    spelled? ('0' :: '.' :: (List.replicate n '0' ++ ds)) =
      some ((v : ℚ) * 10 ^ (-(n + ds.length : Nat) : Int)) := by
  have hdigits : ∀ c ∈ List.replicate n '0' ++ ds, c.isDigit :=
    List.forall_mem_append.mpr ⟨fun c hc => isDigit_of_mem_zeros hc, h.digits⟩
  have hfraction := scanFraction_point (List.append_ne_nil_of_right_ne_nil _ h.ne_nil) hdigits
  rw [spelled?_eq rfl hfraction rfl, List.singleton_append, ← List.cons_append,
    ← List.replicate_succ, natOfDigits_zeros_append, h.value, Option.getD_none,
    List.length_append, List.length_replicate, zero_sub]

/-- The point among the digits. -/
theorem spelled?_split (h : Numeral ds v) {n : Nat} (hpos : 0 < n) (hlt : n < ds.length) :
    spelled? (ds.take n ++ '.' :: ds.drop n) =
      some ((v : ℚ) * 10 ^ (-(ds.length - n : Nat) : Int)) := by
  have hfirst : (ds.take n).head? ≠ some '0' := by
    rw [List.head?_take, if_neg hpos.ne']
    exact h.first
  have hwhole : scanWhole (ds.take n ++ '.' :: ds.drop n) = some (ds.take n, '.' :: ds.drop n) :=
    scanWhole_append (by simpa [h.ne_nil] using hpos.ne') hfirst
      (fun c hc => h.digits c (List.mem_of_mem_take hc)) (endsDigits_cons rfl _)
  have hfraction : scanFraction ('.' :: ds.drop n) = some (ds.drop n, []) :=
    scanFraction_point (by simpa using hlt) fun c hc => h.digits c (List.mem_of_mem_drop hc)
  rw [spelled?_eq hwhole hfraction rfl, List.take_append_drop, h.value, Option.getD_none,
    List.length_drop, zero_sub]

/-- Zeros between the digits and the point. -/
theorem spelled?_append_zeros (h : Numeral ds v) (n : Nat) :
    spelled? (ds ++ List.replicate n '0' ++ ['.', '0']) = some ((v : ℚ) * 10 ^ (n : Int)) := by
  have hfirst : (ds ++ List.replicate n '0').head? ≠ some '0' := by
    rw [List.head?_append_of_ne_nil _ h.ne_nil]
    exact h.first
  have hdigits : ∀ c ∈ ds ++ List.replicate n '0', c.isDigit :=
    List.forall_mem_append.mpr ⟨h.digits, fun c hc => isDigit_of_mem_zeros hc⟩
  have hwhole : scanWhole (ds ++ List.replicate n '0' ++ ['.', '0']) =
      some (ds ++ List.replicate n '0', ['.', '0']) :=
    scanWhole_append (List.append_ne_nil_of_left_ne_nil h.ne_nil _) hfirst hdigits
      (endsDigits_cons rfl _)
  have hfraction : scanFraction ['.', '0'] = some (['0'], []) := rfl
  rw [spelled?_eq hwhole hfraction rfl, List.append_assoc, ← List.replicate_succ',
    natOfDigits_append_zeros, h.value, zpow_natCast, pow_succ]
  push_cast
  simp [mul_assoc]

/-- Digits with a point among them or zeros around them spell the digits times a power of ten. -/
theorem spelled?_plainText (h : Numeral ds v) (k : Int) :
    spelled? (plainText ds (ds.length + k)) = some ((v : ℚ) * 10 ^ k) := by
  unfold plainText
  simp only
  split
  · next hsmall =>
    have hk : k = -((-(ds.length + k)).toNat + ds.length : Nat) := by omega
    rw [h.spelled?_zeros_append, ← hk]
  next hlarge =>
  obtain ⟨n, hn⟩ : ∃ n : Nat, (n : Int) = ds.length + k := ⟨_, Int.toNat_of_nonneg (by omega)⟩
  rw [← hn, Int.toNat_natCast]
  split
  · next hinside =>
    have hk : k = -(ds.length - n : Nat) := by omega
    rw [h.spelled?_split (by omega) hinside, ← hk]
  · next houtside =>
    have hk : k = (n - ds.length : Nat) := by omega
    rw [h.spelled?_append_zeros, ← hk]

/-- Digits with a point after the first and a power of ten spell the digits times a power of ten. -/
theorem spelled?_scientificText (h : Numeral ds v) (k : Int) :
    spelled? (scientificText ds (ds.length + k - 1)) = some ((v : ℚ) * 10 ^ k) := by
  obtain ⟨d, tail, rfl⟩ := List.exists_cons_of_ne_nil h.ne_nil
  obtain ⟨hd, htail⟩ := List.forall_mem_cons.mp h.digits
  have hwhole : ∀ rest, EndsDigits rest → scanWhole ([d] ++ rest) = some ([d], rest) := fun rest =>
    scanWhole_append (List.cons_ne_nil _ _) h.first (List.forall_mem_singleton.mpr hd)
  have hexponent := scanExponent_signed ((d :: tail).length + k - 1)
  have hvalue : natOfDigits ([d] ++ tail) = v := h.value
  unfold scientificText
  cases tail with
  | nil =>
    have hk : (([d].length : Nat) : Int) + k - 1 = k := by simp
    rw [hk] at hexponent ⊢
    have hspelled := spelled?_eq (hwhole _ (endsDigits_cons (c := 'e') rfl _)) rfl hexponent
    rw [hvalue] at hspelled
    simpa using hspelled
  | cons e es =>
    have hk : (((d :: e :: es).length : Nat) : Int) + k - 1 - (e :: es).length = k := by
      simp only [List.length_cons]
      omega
    have hfraction : ∀ rest, EndsDigits rest →
        scanFraction ('.' :: (e :: es ++ rest)) = some (e :: es, rest) :=
      fun rest => scanFraction_append (List.cons_ne_nil _ _) htail
    have hspelled := spelled?_eq (hwhole _ (endsDigits_cons rfl _))
      (hfraction _ (endsDigits_cons (c := 'e') rfl _)) hexponent
    rw [hvalue, Option.getD_some, hk] at hspelled
    exact hspelled

end Numeral

/-! ## Numbers -/

/-- The three forms of the text of a magnitude. -/
inductive Written (x : Binary64) : List Char → Prop where
  | zero (h : x.significand = 0) : Written x ['0', '.', '0']
  | plain (h : 0 < x.significand) :
    Written x (plainText (digitsOf x.shortest.1) ((digitsOf x.shortest.1).length + x.shortest.2))
  | scientific (h : 0 < x.significand) :
    Written x
      (scientificText (digitsOf x.shortest.1) ((digitsOf x.shortest.1).length + x.shortest.2 - 1))

theorem exists_written (x : Binary64) :
    ∃ magnitude, x.Written magnitude ∧
      x.text = if x.isNegative then '-' :: magnitude else magnitude := by
  unfold text
  rcases Nat.eq_zero_or_pos x.significand with hzero | hpos
  · exact ⟨_, .zero hzero, by rw [if_pos hzero]⟩
  · by_cases hplain : jsonFormat.leastPlain ≤ (digitsOf x.shortest.1).length + x.shortest.2 - 1 ∧
        (digitsOf x.shortest.1).length + x.shortest.2 - 1 < jsonFormat.leastScientific
    · exact ⟨_, .plain hpos, by simp only [if_neg hpos.ne', if_pos hplain]⟩
    · exact ⟨_, .scientific hpos, by simp only [if_neg hpos.ne', if_neg hplain]⟩

/-- A decimal that is read as the magnitude of a number. -/
def RoundsFrom (x : Binary64) (q : ℚ) : Prop :=
  x.significand = 0 ∧ q = 0 ∨ 0 < x.significand ∧ x.roundingInterval.Covers q

/-- The text of a magnitude spells a decimal that is read as the magnitude. -/
theorem Written.spelled? {x : Binary64} (hx : x.isFinite = true) {magnitude : List Char}
    (h : x.Written magnitude) : ∃ q, spelled? magnitude = some q ∧ x.RoundsFrom q := by
  have hdigits : 0 < x.significand → 0 < x.shortest.1 := by
    intro hpos
    have hq := pos_of_covers hpos (covers_shortest hx hpos)
    by_contra hnone
    rw [Nat.eq_zero_of_not_pos hnone] at hq
    simp at hq
  cases h with
  | zero hzero =>
    have hspelled : Binary64.spelled? ['0', '.', '0'] = some 0 := by
      have hfraction : scanFraction ['.', '0'] = some (['0'], []) := rfl
      rw [spelled?_eq rfl hfraction rfl]
      simp [natOfDigits]
    exact ⟨0, hspelled, .inl ⟨hzero, rfl⟩⟩
  | plain hpos =>
    exact ⟨_, (numeral_digitsOf (hdigits hpos)).spelled?_plainText _,
      .inr ⟨hpos, covers_shortest hx hpos⟩⟩
  | scientific hpos =>
    exact ⟨_, (numeral_digitsOf (hdigits hpos)).spelled?_scientificText _,
      .inr ⟨hpos, covers_shortest hx hpos⟩⟩

/-- A decimal is read as one magnitude. -/
theorem eq_of_roundsFrom {x y : Binary64} {q : ℚ} (hsign : x.isNegative = y.isNegative)
    (hx : x.RoundsFrom q) (hy : y.RoundsFrom q) : x = y := by
  rcases hx with ⟨hx, rfl⟩ | ⟨hx, hxq⟩ <;> rcases hy with ⟨hy, hq⟩ | ⟨hy, hyq⟩
  · -- two zeros have the least scale
    have hscale : ∀ z : Binary64, z.significand = 0 → z.scale = minScale := by
      intro z hz
      by_contra hne
      have hfull := binade_le_significand (lt_of_le_of_ne z.minScale_le_scale (Ne.symm hne))
      rw [hz, binade_eq] at hfull
      omega
    exact eq_of_fields hsign (hx.trans hy.symm) ((hscale x hx).trans (hscale y hy).symm)
  · exact absurd (pos_of_covers hy hyq) (lt_irrefl 0)
  · exact absurd hq (pos_of_covers hx hxq).ne'
  · obtain ⟨hsignificand, hscale⟩ := eq_of_covers hxq hyq
    exact eq_of_fields hsign hsignificand hscale

/-- **Main theorem.** Different finite numbers have different texts. -/
theorem text_injective {x y : Binary64} (hx : x.isFinite = true) (hy : y.isFinite = true)
    (h : x.text = y.text) : x = y := by
  obtain ⟨xs, hxs, hxtext⟩ := x.exists_written
  obtain ⟨ys, hys, hytext⟩ := y.exists_written
  obtain ⟨q, hq, hxq⟩ := hxs.spelled? hx
  obtain ⟨r, hr, hyr⟩ := hys.spelled? hy
  rw [hxtext, hytext] at h
  -- a sign is not the start of a decimal
  have hfirst : ∀ {cs ds : List Char} {s : ℚ}, spelled? ds = some s → '-' :: cs ≠ ds := by
    rintro cs ds s hs rfl
    rw [spelled?_minus] at hs
    cases hs
  have hboth : x.isNegative = y.isNegative ∧ xs = ys := by
    cases hxneg : x.isNegative <;> cases hyneg : y.isNegative <;>
      simp only [hxneg, hyneg, if_true, if_false, Bool.false_eq_true] at h
    · exact ⟨rfl, h⟩
    · exact absurd h.symm (hfirst hq)
    · exact absurd h (hfirst hr)
    · exact ⟨rfl, (List.cons.inj h).2⟩
  obtain ⟨hsign, rfl⟩ := hboth
  obtain rfl : q = r := Option.some.inj (hq.symm.trans hr)
  exact eq_of_roundsFrom hsign hxq hyr

/-- The text of a number is not that of an integer: it has a point or an exponent. -/
theorem point_or_exponent_mem_text (x : Binary64) : '.' ∈ x.text ∨ 'e' ∈ x.text := by
  obtain ⟨magnitude, hwritten, htext⟩ := x.exists_written
  have hmem : '.' ∈ magnitude ∨ 'e' ∈ magnitude := by
    cases hwritten with
    | zero => exact .inl (by simp)
    | plain =>
      refine .inl ?_
      unfold plainText
      simp only
      split
      · simp
      · split <;> simp
    | scientific => exact .inr (by simp [scientificText])
  rw [htext]
  split
  · exact hmem.imp (List.mem_cons_of_mem _) (List.mem_cons_of_mem _)
  · exact hmem

end CollectionSql.Binary64
