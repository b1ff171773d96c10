/-!
# The Shortest Decimal of a Binary Fraction

A binary floating-point number stands for every real number that rounds to it. Its shortest decimal
is the number with the fewest digits among those, and of several the one nearest to the exact
value. All arithmetic here is on natural numbers, so nothing is rounded on the way.
-/

set_option autoImplicit false

namespace WorkerRoster.Decimal

/-- A positive binary fraction `mantissa * 2 ^ exponent`, with what decides which real numbers
    round to it. -/
structure BinaryFraction where
  /-- The integer mantissa; an even one takes the ends of its interval too. -/
  mantissa : Nat
  /-- The power of two it is multiplied by. -/
  exponent : Int
  /-- Whether the next smaller number lies half as far away as the next larger one. -/
  narrowBelow : Bool
  deriving Repr

namespace BinaryFraction

/-- Four times the mantissa: in this unit the ends of the interval are whole numbers. -/
def centre (x : BinaryFraction) : Nat := 4 * x.mantissa

/-- The lower end of the interval, in quarters of a mantissa unit. -/
def lower (x : BinaryFraction) : Nat := x.centre - (if x.narrowBelow then 1 else 2)

/-- The upper end of the interval, in quarters of a mantissa unit. -/
def upper (x : BinaryFraction) : Nat := x.centre + 2

/-- The factor that turns a number of quarters into a whole number of grid units at `10 ^ k`, before
    the division by `gridUnit`. -/
def quarterScale (x : BinaryFraction) (k : Int) : Nat :=
  Nat.pow 2 (x.exponent - 2).toNat * Nat.pow 10 (-k).toNat

/-- The size of one step of the grid `10 ^ k` in the common unit. -/
def gridUnit (x : BinaryFraction) (k : Int) : Nat :=
  Nat.pow 2 (2 - x.exponent).toNat * Nat.pow 10 k.toNat

/-- Whether the grid point `c * 10 ^ k` rounds to the fraction. -/
def holds (x : BinaryFraction) (k : Int) (c : Nat) : Bool :=
  let point := c * x.gridUnit k
  let low := x.lower * x.quarterScale k
  let high := x.upper * x.quarterScale k
  if x.mantissa % 2 = 0 then low ≤ point && point ≤ high else low < point && point < high

/-- The best grid point at `10 ^ k`: of the two neighbours of the exact value the one that rounds
    to the fraction, the nearer if both do, the even one if both are as near. -/
def gridPoint? (x : BinaryFraction) (k : Int) : Option Nat :=
  let exact := x.centre * x.quarterScale k
  let unit := x.gridUnit k
  let below := exact / unit
  let above := below + 1
  let holdsBelow := below ≠ 0 ∧ x.holds k below
  if holdsBelow ∧ x.holds k above then
    let gap := 2 * (exact % unit)
    if gap < unit ∨ (gap = unit ∧ below % 2 = 0) then some below else some above
  else if holdsBelow then some below
  else if x.holds k above then some above
  else none

/-- The exponents of ten worth trying for a binary64 number, largest first. -/
def gridExponents : List Int :=
  (List.range 640).map fun i : Nat => 310 - (i : Int)

/-- The shortest decimal `(c, k)` for `c * 10 ^ k`: the coarsest grid with a point that rounds to
    the fraction has the fewest digits. -/
def shortest (x : BinaryFraction) : Nat × Int :=
  (gridExponents.findSome? fun k => (x.gridPoint? k).map (·, k)).getD (0, 0)

end BinaryFraction

end WorkerRoster.Decimal
