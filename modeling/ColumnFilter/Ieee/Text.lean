/-
The text of a floating-point value.

A finite value is written with the fewest digits that read back as the same value, nearest to it
among those, in positional notation: `0.1`, `1`, `-0`, and `1e21` with its twenty-one zeros. An
infinity is `inf` with its sign, and a NaN is `NaN` without one.

What reads back is the interval that rounds to the value: halfway to each neighbour, the ends
included when the significand is even. Below a power of two the neighbour is half as far.
-/
import ColumnFilter.Ieee.Basic
import ColumnFilter.Decimal.Shortest

namespace ColumnFilter

/-- Digits that always suffice to read a value back. -/
def FloatFormat.digitLimit (f : FloatFormat) : Nat :=
  2 + (f.fractionBits + 1) * 30103 / 100000

namespace Ieee

variable {f : FloatFormat}

/-- Whether the lower neighbour is nearer than the upper one. -/
def narrowBelow (x : Ieee f) : Bool := x.fraction == 0 && 1 < x.exponent

/-- The magnitude of a finite value, and what rounds to it, in quarters of the gap above. -/
def rounding (x : Ieee f) : Around :=
  let unit := Nat.pow 2 x.scale
  { value := 4 * x.significand * unit
    lower := (4 * x.significand - if x.narrowBelow then 1 else 2) * unit
    upper := (4 * x.significand + 2) * unit
    denominator := 4 * Nat.pow 2 f.leastExponent
    closed := x.significand % 2 == 0 }

/-- Text of the magnitude of a value. -/
def magnitudeText (x : Ieee f) : String :=
  if x.isInfinite then "inf"
  else if x.isZero then "0"
  else (x.rounding.shortest? f.digitLimit).elim "0" Decimal.text

/-- Text of a value. -/
def text (x : Ieee f) : String :=
  if x.isNaN then "NaN" else if x.negative then "-" ++ x.magnitudeText else x.magnitudeText

end Ieee

end ColumnFilter
