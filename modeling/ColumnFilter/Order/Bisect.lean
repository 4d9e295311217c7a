/-
Binary search in an array.

`Bisect.count p xs` halves the array until one position is left. When the elements that satisfy
`p` come first, it is their number, and `Bisect.last? p xs` is the last of them.
-/

namespace ColumnFilter.Bisect

variable {α : Type}

/-- Narrows the positions from `low` to `high`, between which `p` stops being satisfied. -/
def search (p : α → Bool) (xs : Array α) (low high : Nat) (h : high ≤ xs.size) : Nat :=
  if hlt : low < high then
    let middle := (low + high) / 2
    have : middle < xs.size := by omega
    if p xs[middle] then search p xs (middle + 1) high h
    else search p xs low middle (by omega)
  else low
termination_by high - low

/-- The number of elements before the position at which `p` stops being satisfied. -/
def count (p : α → Bool) (xs : Array α) : Nat := search p xs 0 xs.size (Nat.le_refl _)

/-- The element before the position at which `p` stops being satisfied. -/
def last? (p : α → Bool) (xs : Array α) : Option α :=
  match count p xs with
  | 0 => none
  | i + 1 => xs[i]?

end ColumnFilter.Bisect
