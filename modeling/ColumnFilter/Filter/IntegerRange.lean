/-
Inclusive ranges of integers.

Both ends belong to the range and the lower one is never above the upper one, so a range holds at
least one integer. The null flag has no part in what a range holds.
-/
import ColumnFilter.Integer.Bounded

namespace ColumnFilter

/-- The integers from `lower` to `upper`, and NULL or not. -/
structure IntegerRange where
  lower : Bigint
  upper : Bigint
  nullAllowed : Bool
  lower_le_upper : lower.val ≤ upper.val
deriving DecidableEq

namespace IntegerRange

/-- The same integers with another null flag. -/
def withNullAllowed (r : IntegerRange) (nullAllowed : Bool) : IntegerRange :=
  { r with nullAllowed }

@[simp] theorem lower_withNullAllowed (r : IntegerRange) (n : Bool) :
    (r.withNullAllowed n).lower = r.lower := rfl

@[simp] theorem upper_withNullAllowed (r : IntegerRange) (n : Bool) :
    (r.withNullAllowed n).upper = r.upper := rfl

@[simp] theorem nullAllowed_withNullAllowed (r : IntegerRange) (n : Bool) :
    (r.withNullAllowed n).nullAllowed = n := rfl

/-- The least and the greatest integer of the range. -/
def ends (r : IntegerRange) : Bigint × Bigint := (r.lower, r.upper)

/-- The range with the given ends, when they are in order. -/
def ofEnds? (lower upper : Bigint) (nullAllowed : Bool) : Option IntegerRange :=
  if h : lower.val ≤ upper.val then some ⟨lower, upper, nullAllowed, h⟩ else none

/-- Whether the range holds one integer. -/
def isPoint (r : IntegerRange) : Bool := r.lower == r.upper

/-- Whether the range holds an integer. -/
def contains (r : IntegerRange) (v : Bigint) : Bool :=
  r.lower.val ≤ v.val && v.val ≤ r.upper.val

/-- Whether the range ends below the start of another. -/
def isBelow (r next : IntegerRange) : Bool := r.upper.val < next.lower.val

@[simp] theorem isPoint_withNullAllowed (r : IntegerRange) (n : Bool) :
    (r.withNullAllowed n).isPoint = r.isPoint := rfl

@[simp] theorem contains_withNullAllowed (r : IntegerRange) (n : Bool) (v : Bigint) :
    (r.withNullAllowed n).contains v = r.contains v := rfl

@[simp] theorem isBelow_withNullAllowed (r s : IntegerRange) (m n : Bool) :
    (r.withNullAllowed m).isBelow (s.withNullAllowed n) = r.isBelow s := rfl

/-- Two ends in brackets, one when they are equal. -/
def endsText (ends : Bigint × Bigint) : String :=
  if ends.1 == ends.2 then "[" ++ ends.1.text ++ "]"
  else "[" ++ ends.1.text ++ ", " ++ ends.2.text ++ "]"

/-- The ends in brackets. -/
def text (r : IntegerRange) : String := endsText r.ends

end IntegerRange

end ColumnFilter
