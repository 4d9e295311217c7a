/-
The shortest decimal inside an interval around a positive rational.

A number is to be written with so few digits that the writing still falls into a given interval
around it. For each count of digits only two decimals can do so: the neighbours of the number on
the grid of decimals with that many digits. `Around.shortest` takes the first grid one of whose
two neighbours falls inside, and the nearer of them; an exact tie goes to the greater.

`Decimal.text` writes a decimal positionally, without an exponent.
-/

namespace ColumnFilter

/-! ### Decimals -/

/-- The number `digits * 10 ^ place`. -/
structure Decimal where
  digits : Nat
  place : Int
deriving DecidableEq

namespace Decimal

/-- Length of the decimal notation of a natural number. -/
def length (n : Nat) : Nat := (Nat.toDigits 10 n).length

/-- Positional notation: no exponent, a digit before the point, and no zero at the end of a
fraction. -/
def text (d : Decimal) : String :=
  let places := (-d.place).toNat
  let digits := Nat.toDigits 10 d.digits
  let digits := List.replicate (places + 1 - digits.length) '0' ++ digits
    ++ List.replicate d.place.toNat '0'
  let whole := digits.take (digits.length - places)
  let fraction := (digits.drop (digits.length - places)).reverse.dropWhile (· == '0')
  String.ofList (if fraction.isEmpty then whole else whole ++ '.' :: fraction.reverse)

end Decimal

/-! ### The search -/

/-- A positive rational and an interval around it, over one denominator. -/
structure Around where
  value : Nat
  lower : Nat
  upper : Nat
  denominator : Nat
  /-- Whether the ends belong to the interval. -/
  closed : Bool

namespace Around

/-- Number of digits before the decimal point; for a number below `1`, less by one for each
zero that follows the point. -/
def magnitude (a : Around) : Int :=
  if a.denominator ≤ a.value then Decimal.length (a.value / a.denominator)
  else 1 - (Decimal.length ((a.denominator - 1) / a.value) : Int)

/-- `d` over the common measure of decimals of place `place` and of the interval. -/
def decimalMeasure (a : Around) (place : Int) (d : Nat) : Nat :=
  d * a.denominator * Nat.pow 10 place.toNat

/-- A numerator over the same common measure. -/
def exactMeasure (place : Int) (n : Nat) : Nat := n * Nat.pow 10 (-place).toNat

/-- Whether `d * 10 ^ place` falls inside. -/
def admits (a : Around) (place : Int) (d : Nat) : Bool :=
  let x := a.decimalMeasure place d
  let low := exactMeasure place a.lower
  let high := exactMeasure place a.upper
  if a.closed then low ≤ x && x ≤ high else low < x && x < high

/-- The neighbour of the number on the grid of `count` digits that falls inside, if one does:
the nearer if both do, the greater in a tie. -/
def onGrid? (a : Around) (count : Nat) : Option Decimal :=
  let place := a.magnitude - count
  let exact := exactMeasure place a.value
  let below := exact / a.decimalMeasure place 1
  let above := below + 1
  match a.admits place below, a.admits place above with
  | true, true =>
    -- the interval is then wider than a step of the grid
    let down := exact - a.decimalMeasure place below
    let up := a.decimalMeasure place above - exact
    some ⟨if down < up then below else above, place⟩
  | true, false => some ⟨below, place⟩
  | false, true => some ⟨above, place⟩
  | false, false => none

/-- The shortest decimal inside, looked for among those of at most `limit` digits. -/
def shortest? (a : Around) (limit : Nat) : Option Decimal :=
  (List.range limit).findSome? fun i => a.onGrid? (i + 1)

end Around

end ColumnFilter
