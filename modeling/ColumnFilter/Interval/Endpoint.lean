/-
Ends of intervals over an ordered type.

An end is missing, or a value that belongs to the interval, or a value that does not. The same
end means different things below and above an interval, so ends have two orders:

* `Endpoint.compareLower`: a lower end comes earlier when it lets more in, and a missing one
  comes first;
* `Endpoint.compareUpper`: an upper end comes later when it lets more in, and a missing one
  comes last.

`Endpoint.flip` is the end of the neighbouring gap: it keeps the value and changes sides.
-/

namespace ColumnFilter

/-- An end of an interval. -/
inductive Endpoint (α : Type) where
  | unbounded
  | inclusive (a : α)
  | exclusive (a : α)
deriving DecidableEq

namespace Endpoint

variable {α β : Type}

/-- The value at the end. -/
def value? : Endpoint α → Option α
  | unbounded => none
  | inclusive a => some a
  | exclusive a => some a

/-- The end of the gap that meets an interval here. -/
def flip : Endpoint α → Endpoint α
  | unbounded => unbounded
  | inclusive a => exclusive a
  | exclusive a => inclusive a

/-- Whether nothing limits the interval here. -/
def isUnbounded : Endpoint α → Bool
  | unbounded => true
  | _ => false

@[simp] theorem flip_flip (e : Endpoint α) : e.flip.flip = e := by
  cases e <;> rfl

@[simp] theorem value?_flip (e : Endpoint α) : e.flip.value? = e.value? := by
  cases e <;> rfl

/-- The end with its value converted, or the first value that does not convert. -/
def traverse {ε : Type} (convert : α → Except ε β) : Endpoint α → Except ε (Endpoint β)
  | unbounded => .ok unbounded
  | inclusive a => (convert a).map inclusive
  | exclusive a => (convert a).map exclusive

variable [Ord α]

/-- Whether a value stands on the inner side of a lower end. -/
def admitsAbove (lower : Endpoint α) (v : α) : Bool :=
  match lower with
  | unbounded => true
  | inclusive a => compare v a != .lt
  | exclusive a => compare v a == .gt

/-- Whether a value stands on the inner side of an upper end. -/
def admitsBelow (upper : Endpoint α) (v : α) : Bool :=
  match upper with
  | unbounded => true
  | inclusive a => compare v a != .gt
  | exclusive a => compare v a == .lt

/-- Order of lower ends: at one value, the end that includes it comes first. -/
def compareLower : Endpoint α → Endpoint α → Ordering
  | unbounded, unbounded => .eq
  | unbounded, _ => .lt
  | _, unbounded => .gt
  | inclusive a, inclusive b => compare a b
  | exclusive a, exclusive b => compare a b
  | inclusive a, exclusive b => (compare a b).then .lt
  | exclusive a, inclusive b => (compare a b).then .gt

/-- Order of upper ends: at one value, the end that includes it comes last. -/
def compareUpper : Endpoint α → Endpoint α → Ordering
  | unbounded, unbounded => .eq
  | unbounded, _ => .gt
  | _, unbounded => .lt
  | inclusive a, inclusive b => compare a b
  | exclusive a, exclusive b => compare a b
  | inclusive a, exclusive b => (compare a b).then .gt
  | exclusive a, inclusive b => (compare a b).then .lt

/-- Whether an interval that ends at `upper` overlaps or meets one that starts at `lower`, so
that no gap lies between them. -/
def touches (upper lower : Endpoint α) : Bool :=
  match upper, lower with
  | unbounded, _ => true
  | _, unbounded => true
  | inclusive a, inclusive b => compare a b != .lt
  | inclusive a, exclusive b => compare a b != .lt
  | exclusive a, inclusive b => compare a b != .lt
  | exclusive a, exclusive b => compare a b == .gt

/-- Whether nothing lies between a lower and an upper end. -/
def crosses (lower upper : Endpoint α) : Bool :=
  match lower, upper with
  | unbounded, _ => false
  | _, unbounded => false
  | inclusive a, inclusive b => compare a b == .gt
  | inclusive a, exclusive b => compare a b != .lt
  | exclusive a, inclusive b => compare a b != .lt
  | exclusive a, exclusive b => compare a b != .lt

/-- The later of two lower ends. -/
def maxLower (a b : Endpoint α) : Endpoint α := if compareLower a b == .gt then a else b

/-- The earlier of two upper ends. -/
def minUpper (a b : Endpoint α) : Endpoint α := if compareUpper a b == .lt then a else b

/-- The later of two upper ends. -/
def maxUpper (a b : Endpoint α) : Endpoint α := if compareUpper a b == .gt then a else b

end Endpoint

end ColumnFilter
