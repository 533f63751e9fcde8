/-!
# Shortest decimals of binary numbers

A double stands for every real number that rounds to it. Among the decimals
that lie in this interval, the ones on the coarsest grid of powers of ten have
the fewest digits. The decimal of a double is the one of these that is nearest
to it.
-/

namespace AggregateRules

/-- The number `significand * 10 ^ exponent`. -/
structure Decimal where
  significand : Nat
  exponent : Int
  deriving DecidableEq

namespace Decimal

/-- A positive double, the number `significand * 2 ^ exponent`. Its lower
neighbor is at half the distance of its upper neighbor if `nearBelow` holds,
and at the same distance otherwise. -/
structure Magnitude where
  significand : Nat
  exponent : Int
  nearBelow : Bool

/-- The magnitude that the sign-free bits of a double encode. -/
def Magnitude.ofBits (bits : Nat) : Magnitude :=
  let fraction : Nat := bits % Nat.pow 2 52
  let scale : Nat := bits / Nat.pow 2 52 % Nat.pow 2 11
  if scale = 0 then ⟨fraction, -1074, false⟩
  else ⟨Nat.pow 2 52 + fraction, scale - 1075, fraction = 0 ∧ 1 < scale⟩

namespace Magnitude

def quarters (magnitude : Magnitude) : Nat :=
  4 * magnitude.significand

/-- The lower end of the interval that rounds to the magnitude, in quarters of
its last place. -/
def lowerEnd (magnitude : Magnitude) : Nat :=
  if magnitude.nearBelow then magnitude.quarters - 1 else magnitude.quarters - 2

def upperEnd (magnitude : Magnitude) : Nat :=
  magnitude.quarters + 2

/-- A grid beside a magnitude: the size of a quarter of the magnitude's last
place and the size of a step of the grid, in a unit that measures both. -/
structure Grid where
  quarter : Nat
  step : Nat

/-- The grid of all multiples of `10 ^ place`. -/
def gridAt (magnitude : Magnitude) (place : Int) : Grid where
  quarter :=
    Nat.pow 2 (magnitude.exponent - 2).toNat * Nat.pow 10 (-place).toNat
  step := Nat.pow 2 (2 - magnitude.exponent).toNat * Nat.pow 10 place.toNat

/-- Whether a point of the grid rounds to the magnitude. The ends of the
interval do so exactly if the significand is even. -/
def covers (magnitude : Magnitude) (grid : Grid) (point : Nat) : Bool :=
  let reached := point * grid.step
  let lower := magnitude.lowerEnd * grid.quarter
  let upper := magnitude.upperEnd * grid.quarter
  if magnitude.significand % 2 = 0 then lower ≤ reached && reached ≤ upper
  else lower < reached && reached < upper

/-- The point of a grid that rounds to the magnitude and is nearest to it; of
two equally near ones, the even one. -/
def nearestOn? (magnitude : Magnitude) (grid : Grid) : Option Nat :=
  let exact := magnitude.quarters * grid.quarter
  let below := exact / grid.step
  let above := below + 1
  match magnitude.covers grid below, magnitude.covers grid above with
  | false, false => none
  | true, false => some below
  | false, true => some above
  | true, true =>
      let toBelow := exact - below * grid.step
      let toAbove := above * grid.step - exact
      if toBelow < toAbove ∨ (toBelow = toAbove ∧ below % 2 = 0) then some below
      else some above

/-- Tries the grids from `place` on downward, each ten times finer than the one
before. -/
def searchGrids (magnitude : Magnitude) (place : Int) : Nat → Decimal
  | 0 => ⟨0, place⟩
  | finer + 1 =>
      match magnitude.nearestOn? (magnitude.gridAt place) with
      | some point => ⟨point, place⟩
      | none => magnitude.searchGrids (place - 1) finer

/-- The decimal with the fewest digits that rounds to the magnitude. No double
reaches `10 ^ 309`, and a step of `10 ^ -324` is smaller than the interval of
every double, so the search ends on a grid in between. -/
def shortest (magnitude : Magnitude) : Decimal :=
  magnitude.searchGrids 308 633

end Magnitude

end Decimal

end AggregateRules
