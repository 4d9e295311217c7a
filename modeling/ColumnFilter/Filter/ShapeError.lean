/-
Reasons why no filter has the requested shape.

Each shape of filter has conditions on its parts: ends in order, enough members, members of one
family, members in order. A violation names the condition.
-/
import ColumnFilter.Filter.IntegerRange
import ColumnFilter.Filter.Span

namespace ColumnFilter

/-- A violated condition of a filter's shape. -/
inductive ShapeError where
  | integerEnds (lower upper : Bigint)
  | fewIntegerRanges
  /-- The ends of two neighbours. -/
  | integerRangeOrder (earlier later : Bigint × Bigint)
  | noIntegers
  | noByteStrings
  | fewSpans
  | mixedSpans (first : Family)
  | spanOrder
deriving DecidableEq

/-- The condition, with the parts that violate it. -/
def ShapeError.message : ShapeError → String
  | integerEnds lower upper =>
    "BigintRange requires lower <= upper, got [" ++ lower.text ++ ", " ++ upper.text ++ "]"
  | fewIntegerRanges => "BigintMultiRange requires at least two ranges"
  | integerRangeOrder earlier later =>
    "BigintMultiRange ranges must be sorted and disjoint: " ++ IntegerRange.endsText earlier
      ++ " then " ++ IntegerRange.endsText later
  | noIntegers => "BigintValues requires at least one value"
  | noByteStrings => "BytesValues requires at least one value"
  | fewSpans => "MultiRange requires at least two ranges"
  | mixedSpans first => "MultiRange members must all be " ++ first.name ++ " ranges"
  | spanOrder => "MultiRange members must be sorted and disjoint"

/-- The range with the given ends. -/
def IntegerRange.make (lower upper : Bigint) (nullAllowed : Bool) :
    Except ShapeError IntegerRange :=
  match IntegerRange.ofEnds? lower upper nullAllowed with
  | some r => .ok r
  | none => .error (.integerEnds lower upper)

end ColumnFilter
