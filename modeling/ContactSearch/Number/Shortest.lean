import ContactSearch.Number.Decimal
import ContactSearch.Number.Double

namespace ContactSearch

/-!
# The fewest digits that read back

A finite double is written with the fewest decimal digits that still round to
it, and of those with the digits nearest to its exact value.  All quantities
are scaled to natural numbers: `5 ^ 1074` times the units is `10 ^ 1074` times
the value, so that decimal grids, the value and the two ends of its rounding
interval can be compared exactly.

Both layouts of numbers in this library take their digits from here.  They
differ only in what happens when two digit strings are equally near.
-/

/-- Which of two equally near digit strings is written. -/
inductive Tie where
  | even
  | up
  deriving DecidableEq

namespace Finite

/-- Scaled values are this power of ten times the value. -/
def decimalScale : Nat := 1074

/-- The scaled value: `10 ^ 1074` times the magnitude. -/
def scaled (x : Finite) : Nat :=
  x.units * 5 ^ decimalScale

/-- The distance of a magnitude to the neighbour above it. -/
def spacing (units : Nat) : Nat :=
  2 ^ spacingExponent units

/--
Four times the distance from a magnitude to the lower end of its rounding interval.
Below a power of two the grid is twice as fine.
-/
def lowerReach (units : Nat) : Nat :=
  if units = 2 ^ units.log2 ∧ 52 < units.log2 then spacing units else 2 * spacing units

/-- Four times the distance from a magnitude to the upper end of its rounding interval. -/
def upperReach (units : Nat) : Nat :=
  2 * spacing units

/-- Whether the ends of the rounding interval round to the magnitude itself. -/
def closedInterval (units : Nat) : Bool :=
  (units / spacing units) % 2 == 0

/-- Whether a scaled decimal rounds to the double. -/
def readsAs (x : Finite) (candidate : Nat) : Bool :=
  let low := (4 * x.units - lowerReach x.units) * 5 ^ decimalScale
  let high := (4 * x.units + upperReach x.units) * 5 ^ decimalScale
  if closedInterval x.units then
    low ≤ 4 * candidate && 4 * candidate ≤ high
  else
    low < 4 * candidate && 4 * candidate < high

/--
The multiple of a grid step that stands for the double, if one of the two grid points around
its value does.  Of two the nearer is taken.
-/
def onGrid? (tie : Tie) (x : Finite) (step : Nat) : Option Nat :=
  let below := x.scaled / step
  let twice := 2 * (x.scaled % step)
  match x.readsAs (below * step), x.readsAs ((below + 1) * step) with
  | false, false => none
  | true, false => some below
  | false, true => some (below + 1)
  | true, true =>
      if twice < step then some below
      else if step < twice then some (below + 1)
      else match tie with
        | .up => some (below + 1)
        | .even => some (below + below % 2)

end Finite

/-- Significant digits and the place of the decimal point: `0.d₁d₂… * 10 ^ point`. -/
structure Significant where
  digits : List Char
  point : Int

namespace Significant

/-- Drop the zeros at the end of a list of digits. -/
def withoutTrailingZeros (digits : List Char) : List Char :=
  (digits.reverse.dropWhile (fun c => c == '0')).reverse

/-- The digits of `coefficient * 10 ^ exponent`. -/
def ofDecimal (coefficient : Nat) (exponent : Int) : Significant :=
  let digits := Decimal.digits coefficient
  ⟨withoutTrailingZeros digits, digits.length + exponent⟩

/--
The shortest digits of a finite double that is not zero.  At most seventeen are needed, so the
exact value at the end is never reached.
-/
def shortest (tie : Tie) (x : Finite) : Significant :=
  let width := Decimal.count x.scaled
  let attempt := fun (dropped : Nat) =>
    (x.onGrid? tie (10 ^ dropped)).map fun coefficient =>
      ofDecimal coefficient (dropped - Finite.decimalScale : Int)
  let attempts := (List.range 17).findSome? fun count => attempt (width - (count + 1))
  attempts.getD (ofDecimal x.scaled (-Finite.decimalScale))

/-- A run of zeros. -/
def zeros (count : Nat) : List Char :=
  List.replicate count '0'

/-- The digits in front of the decimal point and the digits after it, without an exponent. -/
def positional (number : Significant) : List Char × List Char :=
  match number.point with
  | .ofNat (point + 1) =>
      if number.digits.length ≤ point + 1 then
        (number.digits ++ zeros (point + 1 - number.digits.length), [])
      else
        (number.digits.take (point + 1), number.digits.drop (point + 1))
  | point => (['0'], zeros point.natAbs ++ number.digits)

end Significant
end ContactSearch
