import NumberedBasic.Decimal.Basic
import NumberedBasic.Number.Round

/-! # The shortest decimal that reads back

A positive magnitude is the nearest one to every decimal in an interval around
it, whose ends belong to it when the mantissa is even. The shortest decimal in
the interval lies on the coarsest grid of powers of ten that meets the interval,
next to the magnitude itself.
-/

namespace NumberedBasic

namespace Magnitude

/-- The magnitude in quarters of the least positive magnitude. -/
def quarters (x : Magnitude) : Nat :=
  4 * x.units

/-- How far above the magnitude, in quarters, a decimal still rounds to it. -/
def reachAbove (x : Magnitude) : Nat :=
  2 * 2 ^ x.scale

/-- How far below; at the lower end of a binade the neighbour is twice as near. -/
def reachBelow (x : Magnitude) : Nat :=
  if x.mantissa = 2 ^ 52 ∧ 0 < x.scale then 2 ^ x.scale else 2 * 2 ^ x.scale

def within (x : Magnitude) (distance reach : Nat) : Bool :=
  if x.mantissa % 2 = 0 then decide (distance ≤ reach) else decide (distance < reach)

/-- The decimal on the grid of multiples of `10 ^ exponent` that is nearest to the
magnitude among those that round to it; a tie goes to the even coefficient. -/
def onGrid? (x : Magnitude) (exponent : Int) : Option Decimal :=
  let finer := 10 ^ (-exponent).toNat
  let spacing := 4 * unitsOfOne * 10 ^ exponent.toNat
  let value := x.quarters * finer
  let lower := value / spacing
  let below := value % spacing
  let above := spacing - below
  let lowerHits := decide (0 < lower) && x.within below (x.reachBelow * finer)
  let upperHits := x.within above (x.reachAbove * finer)
  let preferLower :=
    decide (below < above) || (decide (below = above) && decide (lower % 2 = 0))
  if lowerHits && (preferLower || !upperHits) then some ⟨lower, exponent⟩
  else if upperHits then some ⟨lower + 1, exponent⟩
  else none

def firstHit (x : Magnitude) (grids : Nat) (exponent : Int) : Decimal :=
  ((List.range (grids + 1)).findSome? fun k : Nat => x.onGrid? (exponent - k)).getD ⟨0, 0⟩

/-- An exponent with `10 ^ exponent` above everything that rounds to the magnitude. -/
def gridBound (x : Magnitude) : Int :=
  ((x.quarters.log2 : Int) - 1074) * 30103 / 100000 + 1

/-- The shortest decimal that rounds to a positive magnitude, the nearest one if
there are several. Seventeen digits always suffice. -/
def shortest (x : Magnitude) : Decimal :=
  x.firstHit 24 x.gridBound

end Magnitude

end NumberedBasic
