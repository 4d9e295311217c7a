/-
Sets of values as lists of intervals.

A set is everything, nothing, or a list of intervals. The list is in normal form when no interval
is empty, each precedes the next, and it is neither empty nor everything: `ofIntervals` makes the
normal form of any list, and union, intersection and complement keep it. `unchecked` takes a list
as it comes, so a set need not be normal; every operation is defined on such lists too.
-/
import ColumnFilter.Interval.Basic

namespace ColumnFilter

/-- A set of values. -/
inductive IntervalSet (α : Type) where
  | all
  | none
  | intervals (list : List (Interval α))
deriving DecidableEq

namespace IntervalSet

variable {α : Type}

/-- The intervals of a set. -/
def toList : IntervalSet α → List (Interval α)
  | all => [Interval.all]
  | none => []
  | intervals list => list

/-- Number of intervals. -/
def size (s : IntervalSet α) : Nat := s.toList.length

/-- Whether the set is everything. -/
def isAll : IntervalSet α → Bool
  | all => true
  | none => false
  | intervals [i] => i.isAll
  | intervals _ => false

/-- Whether the set is nothing. -/
def isNone : IntervalSet α → Bool
  | all => false
  | none => true
  | intervals list => list.isEmpty

/-- A list of intervals as it comes. -/
def unchecked (list : List (Interval α)) : IntervalSet α := intervals list

/-- The set of a list already sorted and merged: an empty list is nothing, and a single interval
without ends is everything. -/
def ofMerged : List (Interval α) → IntervalSet α
  | [] => none
  | [i] => if i.isAll then all else intervals [i]
  | list => intervals list

variable [Ord α]

/-! ### Normal form -/

/-- Merges a list sorted by lower end, where `current` is the interval being grown. -/
def mergeInto (current : Interval α) : List (Interval α) → List (Interval α)
  | [] => [current]
  | i :: rest =>
    if current.upper.touches i.lower then
      mergeInto ⟨current.lower, current.upper.maxUpper i.upper⟩ rest
    else current :: mergeInto i rest

/-- Merges the intervals of a list sorted by lower end that touch. -/
def mergeSorted : List (Interval α) → List (Interval α)
  | [] => []
  | i :: rest => mergeInto i rest

/-- Intervals in order of their lower ends; equal ends keep their places. -/
def sortByLower (list : List (Interval α)) : List (Interval α) :=
  list.mergeSort fun i j => i.lower.compareLower j.lower != .gt

/-- The set of all values of the intervals, in normal form. -/
def ofIntervals (list : List (Interval α)) : IntervalSet α :=
  ofMerged (mergeSorted (sortByLower (list.filter (!·.isEmpty))))

/-- The set of the listed values. -/
def ofValues (values : List α) : IntervalSet α := ofIntervals (values.map .point)

/-! ### Members -/

/-- Whether the set holds a value. -/
def contains (s : IntervalSet α) (v : α) : Bool :=
  match s with
  | all => true
  | none => false
  | intervals list => list.any (·.contains v)

/-- Whether every interval is a single value. -/
def isDiscrete : IntervalSet α → Bool
  | intervals list => list.all (·.isPoint)
  | _ => false

/-! ### Algebra -/

/-- The values of either set. -/
def union : IntervalSet α → IntervalSet α → IntervalSet α
  | all, _ => all
  | _, all => all
  | none, s => s
  | s, none => s
  | intervals l, intervals r => ofIntervals (l ++ r)

/-- The non-empty intersections of an interval of the first list with one of the second. -/
def pieces (l r : List (Interval α)) : List (Interval α) :=
  l.flatMap fun i => r.filterMap i.meet?

/-- The values of both sets. -/
def intersect : IntervalSet α → IntervalSet α → IntervalSet α
  | none, _ => none
  | _, none => none
  | all, s => s
  | s, all => s
  | intervals l, intervals r => ofIntervals (pieces l r)

/-- The gaps after an interval that ended at `last`. -/
def gapsAfter (last : Endpoint α) : List (Interval α) → List (Interval α)
  | [] => if last.isUnbounded then [] else [⟨last.flip, .unbounded⟩]
  | i :: rest =>
    -- empty only in a list out of order, where an interval starts before `last`
    let gap : Interval α := ⟨last.flip, i.lower.flip⟩
    if gap.isEmpty then gapsAfter i.upper rest else gap :: gapsAfter i.upper rest

/-- The gaps before, between and after the intervals of a list. -/
def gaps : List (Interval α) → List (Interval α)
  | [] => [.all]
  | i :: rest =>
    if i.lower.isUnbounded then gapsAfter i.upper rest
    else ⟨.unbounded, i.lower.flip⟩ :: gapsAfter i.upper rest

/-- The values that the set does not hold. -/
def complement : IntervalSet α → IntervalSet α
  | all => none
  | none => all
  | intervals list => ofIntervals (gaps list)

/-! ### Text -/

/-- `ALL`, `NONE`, or the intervals in braces. -/
def text (value : α → String) : IntervalSet α → String
  | all => "ALL"
  | none => "NONE"
  | intervals list => "\x7b" ++ ", ".intercalate (list.map (·.text value)) ++ "\x7d"

end IntervalSet

end ColumnFilter
