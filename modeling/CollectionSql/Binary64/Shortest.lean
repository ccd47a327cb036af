import CollectionSql.Binary64.Basic

/-!
# Shortest decimals

The text of a binary64 number uses the fewest decimal digits that read back as that number. The
reals that round to a number form an interval around it; the shortest decimal lies on the coarsest
power-of-ten grid that has a point in the interval, and of two such points it is the nearer one.
-/

namespace CollectionSql.Binary64

/-- An interval of reals around a value, all in units of `2 ^ scale`, with its ends or without. -/
structure RoundingInterval where
  low : Nat
  value : Nat
  high : Nat
  scale : Int
  closed : Bool

/-- The reals that round to a finite number. The unit is a quarter of the last place: half a place
to each side, and a quarter below the first number of a binade, whose lower neighbour is nearer. The
ends belong to it when the significand is even, since a tie goes to the even neighbour. -/
def roundingInterval (x : Binary64) : RoundingInterval :=
  let m := x.significand
  let below := if m = binade ∧ minScale < x.scale then 1 else 2
  ⟨4 * m - below, 4 * m, 4 * m + 2, x.scale - 2, m % 2 == 0⟩

namespace RoundingInterval

/-- Whether the point `p / den` (in the interval's unit) lies in the interval. -/
def contains (i : RoundingInterval) (p den : Nat) : Bool :=
  if i.closed then i.low * den ≤ p && p ≤ i.high * den else i.low * den < p && p < i.high * den

/-- The multiple of `10 ^ k` that lies in the interval and is nearest to its value, an even multiple
winning a tie; `none` if no multiple lies in it. Only the two multiples around the value can. -/
def onGrid (i : RoundingInterval) (k : Int) : Option Nat :=
  let unit := tenTo k.toNat * twoTo (-i.scale).toNat
  let den := tenTo (-k).toNat * twoTo i.scale.toNat
  let down := i.value * den / unit
  let rest := i.value * den % unit
  match i.contains (down * unit) den, i.contains ((down + 1) * unit) den with
  | true, true =>
    if 2 * rest < unit then some down
    else if unit < 2 * rest then some (down + 1)
    else some (down + down % 2)
  | true, false => some down
  | false, true => some (down + 1)
  | false, false => none

end RoundingInterval

/-- The grids are tried from one that is coarser than the number itself down to one that is finer
than the gap between neighbours. -/
def gridCount : Nat := 800

/-- The shortest decimal of the magnitude of a finite number that is not zero: the digits, read as
an integer, and the power of ten that they are multiplied by. -/
def shortest (x : Binary64) : Nat × Int :=
  let interval := x.roundingInterval
  let coarse : Int := decimalWidth (x.significand * twoTo x.scale.toNat)
  let hit := (List.range gridCount).findSome? fun (step : Nat) =>
    let k := coarse - step
    (interval.onGrid k).map fun digits => (digits, k)
  hit.getD (0, 0)

end CollectionSql.Binary64
