/-
Unions of integer ranges.

Two or more ranges, each below the next. A value is looked up by binary search: of the ranges
that start at or below the value, only the last can hold it. NULL is a matter of the union, whose
members have their own flags cleared.
-/
import ColumnFilter.Filter.ShapeError
import ColumnFilter.Order.Bisect

namespace ColumnFilter

namespace IntegerRange

/-- The first range of a list that is not below its neighbour, with that neighbour. -/
def firstOverlap? : List IntegerRange → Option (IntegerRange × IntegerRange)
  | r :: s :: rest => if r.isBelow s then firstOverlap? (s :: rest) else some (r, s)
  | _ => none

/-- Flags do not matter to the order of ranges. -/
theorem firstOverlap?_map_withNullAllowed (n : Bool) (ranges : List IntegerRange) :
    firstOverlap? (ranges.map (·.withNullAllowed n)) =
      (firstOverlap? ranges).map fun p => (p.1.withNullAllowed n, p.2.withNullAllowed n) := by
  -- pair by pair, in the order of the search; each comparison is of ends alone
  fun_induction firstOverlap? ranges with
  | case1 r s rest hrs ih =>
    rw [List.map_cons] at ih
    rw [List.map_cons, List.map_cons, firstOverlap?, isBelow_withNullAllowed, if_pos hrs, ih]
  | case2 r s rest hrs =>
    rw [List.map_cons, List.map_cons, firstOverlap?, isBelow_withNullAllowed, if_neg hrs]
    rfl
  | case3 ranges h =>
    rcases ranges with - | ⟨r, - | ⟨s, rest⟩⟩
    · rfl
    · rfl
    · exact absurd rfl (h r s rest)

end IntegerRange

/-- A union of integer ranges in ascending order, and NULL or not. -/
structure IntegerUnion where
  members : Array IntegerRange
  nullAllowed : Bool
  two_le_size : 2 ≤ members.size
  ordered : IntegerRange.firstOverlap? members.toList = none
  cleared : ∀ r ∈ members.toList, r.nullAllowed = false
deriving DecidableEq

namespace IntegerUnion

/-- The union of the given ranges, whatever their flags. -/
def make (ranges : List IntegerRange) (nullAllowed : Bool) : Except ShapeError IntegerUnion :=
  if hsize : 2 ≤ ranges.length then
    match horder : IntegerRange.firstOverlap? ranges with
    | none =>
      .ok {
        members := (ranges.map (·.withNullAllowed false)).toArray
        nullAllowed
        two_le_size := by simpa using hsize
        ordered := by rw [IntegerRange.firstOverlap?_map_withNullAllowed, horder]; rfl
        cleared := List.forall_mem_map.mpr fun _ _ => rfl }
    | some (earlier, later) => .error (.integerRangeOrder earlier.ends later.ends)
  else .error .fewIntegerRanges

/-- Whether a range of the union holds an integer. -/
def contains (u : IntegerUnion) (v : Bigint) : Bool :=
  (Bisect.last? (fun r => decide (r.lower.val ≤ v.val)) u.members).any (·.contains v)

/-- The ranges in braces. -/
def text (u : IntegerUnion) : String :=
  "bigint\x7b" ++ ", ".intercalate (u.members.toList.map (·.text)) ++ "\x7d"

end IntegerUnion

end ColumnFilter
