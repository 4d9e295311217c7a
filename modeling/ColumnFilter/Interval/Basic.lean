/-
Intervals over an ordered type.

An interval is a lower and an upper end. It may be empty, and it is a point when both ends
include one value. `Interval.precedes` is the relation between neighbours of a normal list: the
first ends before the second starts, and a gap lies between.
-/
import ColumnFilter.Interval.Endpoint

namespace ColumnFilter

/-- An interval, given by its ends. -/
structure Interval (α : Type) where
  lower : Endpoint α
  upper : Endpoint α
deriving DecidableEq

namespace Interval

variable {α : Type}

/-! ### Making intervals -/

/-- Everything. -/
def all : Interval α := ⟨.unbounded, .unbounded⟩

/-- The single value `a`. -/
def point (a : α) : Interval α := ⟨.inclusive a, .inclusive a⟩

/-- The values below `a`. -/
def below (a : α) : Interval α := ⟨.unbounded, .exclusive a⟩

/-- The values up to `a`. -/
def upTo (a : α) : Interval α := ⟨.unbounded, .inclusive a⟩

/-- The values above `a`. -/
def above (a : α) : Interval α := ⟨.exclusive a, .unbounded⟩

/-- The values from `a` on. -/
def startingAt (a : α) : Interval α := ⟨.inclusive a, .unbounded⟩

/-- The values from `a` to `b`, both included. -/
def between (a b : α) : Interval α := ⟨.inclusive a, .inclusive b⟩

/-! ### What an interval holds -/

/-- The values at the ends, the lower one first. -/
def endValues (i : Interval α) : List α := i.lower.value?.toList ++ i.upper.value?.toList

/-- Whether neither end limits the interval. -/
def isAll (i : Interval α) : Bool := i.lower.isUnbounded && i.upper.isUnbounded

variable [Ord α]

/-- Whether the ends leave no room between them. -/
def isEmpty (i : Interval α) : Bool := i.lower.crosses i.upper

/-- The only value of a point. -/
def point? (i : Interval α) : Option α :=
  match i.lower, i.upper with
  | .inclusive a, .inclusive b => if compare a b == .eq then some a else none
  | _, _ => none

/-- Whether the interval is a single value. -/
def isPoint (i : Interval α) : Bool := i.point?.isSome

/-- Whether the interval holds a value. -/
def contains (i : Interval α) (v : α) : Bool := i.lower.admitsAbove v && i.upper.admitsBelow v

/-- Whether the interval starts before `next` and ends with a gap before it. -/
def precedes (i next : Interval α) : Bool :=
  i.lower.compareLower next.lower == .lt && !i.upper.touches next.lower

/-- What two intervals share, unless it is empty. -/
def meet? (i j : Interval α) : Option (Interval α) :=
  let shared : Interval α := ⟨i.lower.maxLower j.lower, i.upper.minUpper j.upper⟩
  if shared.isEmpty then none else some shared

/-! ### Text -/

/-- A point is its value in brackets; otherwise a bracket marks an end that belongs to the
interval and a parenthesis one that does not. -/
def text (value : α → String) (i : Interval α) : String :=
  match i.point? with
  | some a => "[" ++ value a ++ "]"
  | none =>
    let start := match i.lower with
      | .unbounded => "(<min>"
      | .inclusive a => "[" ++ value a
      | .exclusive a => "(" ++ value a
    let stop := match i.upper with
      | .unbounded => "<max>)"
      | .inclusive a => value a ++ "]"
      | .exclusive a => value a ++ ")"
    start ++ ", " ++ stop

end Interval

end ColumnFilter
