import GpuTelemetry.Binary64

/-!
# Shortest decimals

The numbers that round to one binary64 number form an interval around it. The shortest decimal of
the number is the one with the fewest digits in that interval and, of those, the nearest; it is
found by exact comparison of naturals on the grids of one digit, two digits and so on up to
seventeen, which always suffice. On each grid only the two neighbours of the number can be hits.
-/

namespace GpuTelemetry

/-- The decimal `digits * 10 ^ exponent`. -/
structure Decimal where
  /-- All significant digits, as one natural. -/
  digits : Nat
  /-- The power of ten they are multiplied by. -/
  exponent : Int
  deriving DecidableEq, Repr

/-- Which of two equally near decimals is taken. -/
inductive Tie where
  /-- The one farther from zero. -/
  | away
  /-- The one with an even last digit. -/
  | even
  deriving DecidableEq, Repr

/-- The interval of numbers that round to one positive number, over a common denominator. -/
structure Cell where
  /-- Numerator of the number itself. -/
  value : Nat
  /-- Numerator of the lower end. -/
  low : Nat
  /-- Numerator of the upper end. -/
  high : Nat
  /-- The denominator of all three. -/
  den : Nat
  /-- Whether the ends themselves round to the number. -/
  closed : Bool
  deriving DecidableEq, Repr

namespace Cell

/-- The cell of a number: half a step to either side, a quarter below a power of two, with its ends
for even significands. -/
def ofScaled (x : Scaled) : Cell :=
  let unit := Nat.pow 2 x.exponent.toNat
  let below :=
    if x.significand = Binary64.hiddenBit ∧ Binary64.leastExponent < x.exponent then 1 else 2
  { value := 4 * x.significand * unit
    low := (4 * x.significand - below) * unit
    high := (4 * x.significand + 2) * unit
    den := 4 * Nat.pow 2 (-x.exponent).toNat
    closed := x.significand % 2 == 0 }

/-- Whether `n * 10 ^ exponent` lies in the cell. -/
def holds (cell : Cell) (n : Nat) (exponent : Int) : Bool :=
  let point := n * Nat.pow 10 exponent.toNat * cell.den
  let low := cell.low * Nat.pow 10 (-exponent).toNat
  let high := cell.high * Nat.pow 10 (-exponent).toNat
  if cell.closed then decide (low ≤ point) && decide (point ≤ high)
  else decide (low < point) && decide (point < high)

/-- The greatest `n` with `n * 10 ^ exponent` at most the number. -/
def below (cell : Cell) (exponent : Int) : Nat :=
  cell.value * Nat.pow 10 (-exponent).toNat / (cell.den * Nat.pow 10 exponent.toNat)

/-- Compares the distance to the lower neighbour on the grid with that to the upper one. -/
def compareNeighbours (cell : Cell) (exponent : Int) : Ordering :=
  let unit := cell.den * Nat.pow 10 exponent.toNat
  compare (2 * (cell.value * Nat.pow 10 (-exponent).toNat % unit)) unit

/-- The multiple of `10 ^ exponent` in the cell that is nearest to the number, if there is one. -/
def nearest? (cell : Cell) (tie : Tie) (exponent : Int) : Option Nat :=
  let lower := cell.below exponent
  match cell.holds lower exponent, cell.holds (lower + 1) exponent with
  | false, false => none
  | true, false => some lower
  | false, true => some (lower + 1)
  | true, true =>
    match cell.compareNeighbours exponent, tie with
    | .lt, _ => some lower
    | .gt, _ => some (lower + 1)
    | .eq, .away => some (lower + 1)
    | .eq, .even => some (lower + lower % 2)

end Cell

namespace Decimal

/-- How many decimal digits a natural has; zero has one. -/
def digitCount (n : Nat) : Nat := if n < 10 then 1 else digitCount (n / 10) + 1

/-- How many digits a positive quotient has before the point, or minus the number of zeros right
behind it. -/
def pointPosition (num den : Nat) : Int :=
  if den ≤ num then digitCount (num / den) else 1 - (digitCount ((den - 1) / num) : Int)

/-- The same decimal without trailing zeros among its digits. -/
def trim (digits : Nat) (exponent : Int) : Decimal :=
  if digits % 10 = 0 ∧ 0 < digits then trim (digits / 10) (exponent + 1) else ⟨digits, exponent⟩
termination_by digits
decreasing_by omega

/-- Tries `count` digits, then one more, at most `tries` times. -/
def search (cell : Cell) (tie : Tie) (position : Int) (tries count : Nat) : Decimal :=
  let exponent := position - count
  match tries with
  | 0 => ⟨cell.below exponent, exponent⟩
  | tries + 1 =>
    match cell.nearest? tie exponent with
    | some digits => trim digits exponent
    | none => search cell tie position tries (count + 1)

/-- The shortest decimal that rounds to a positive finite number. -/
def shortest (tie : Tie) (x : Scaled) : Decimal :=
  let cell := Cell.ofScaled x
  search cell tie (pointPosition cell.value cell.den) 17 1

end Decimal

end GpuTelemetry
