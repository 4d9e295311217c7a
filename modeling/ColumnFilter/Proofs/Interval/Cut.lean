/-
Ends of intervals as cuts.

A cut is a place between the values of a linear order: before everything, just before or just
after one value, or after everything. A lower end cuts before the value that it includes and
after the one that it excludes; an upper end does the reverse. With `Endpoint.lowerCut` and
`Endpoint.upperCut` the case distinctions on ends become comparisons of cuts:

* `Endpoint.compareLower_eq_lt`, `Endpoint.compareUpper_eq_lt` and the like: the orders of ends;
* `Endpoint.touches_iff`, `Endpoint.crosses_iff`: an upper end against a lower one;
* `Endpoint.admitsAbove_iff`, `Endpoint.admitsBelow_iff`: an end against a value, which stands
  right after the cut before it;
* `Endpoint.lowerCut_flip`, `Endpoint.upperCut_flip`: a flipped end makes the same cut from the
  other side.
-/
import ColumnFilter.Interval.Endpoint
import Mathlib.Order.Defs.LinearOrder
import Mathlib.Order.Monotone.Basic
import Mathlib.Tactic.Order

namespace ColumnFilter

/-- A place between the values of a linear order. -/
inductive Cut (α : Type) where
  | bottom
  | before (a : α)
  | after (a : α)
  | top

/-- A cut between values as a cut between their images. -/
def Cut.map {α β : Type} (f : α → β) : Cut α → Cut β
  | bottom => bottom
  | before a => before (f a)
  | after a => after (f a)
  | top => top

namespace Cut

variable {α : Type} [LinearOrder α]

instance : LE (Cut α) where
  le
    | bottom, _ => True
    | _, top => True
    | before a, before b => a ≤ b
    | before a, after b => a ≤ b
    | after a, before b => a < b
    | after a, after b => a ≤ b
    | _, _ => False

@[simp] theorem bottom_le (p : Cut α) : bottom ≤ p := True.intro

@[simp] theorem le_top (p : Cut α) : p ≤ top := by
  cases p <;> exact True.intro

@[simp] theorem before_le_before {a b : α} : before a ≤ before b ↔ a ≤ b := Iff.rfl

@[simp] theorem before_le_after {a b : α} : before a ≤ after b ↔ a ≤ b := Iff.rfl

@[simp] theorem after_le_before {a b : α} : after a ≤ before b ↔ a < b := Iff.rfl

@[simp] theorem after_le_after {a b : α} : after a ≤ after b ↔ a ≤ b := Iff.rfl

@[simp] theorem le_bottom {p : Cut α} : p ≤ bottom ↔ p = bottom := by
  cases p <;> simp <;> exact id

@[simp] theorem top_le {p : Cut α} : top ≤ p ↔ p = top := by
  cases p <;> simp <;> exact id

protected theorem le_refl (p : Cut α) : p ≤ p := by
  cases p <;> simp

protected theorem le_trans (p q r : Cut α) (h : p ≤ q) (h' : q ≤ r) : p ≤ r := by
  cases p <;> cases q <;> cases r <;> simp at h h' ⊢ <;> order

noncomputable instance : LinearOrder (Cut α) where
  le_refl := Cut.le_refl
  le_trans := Cut.le_trans
  le_antisymm p q h h' := by
    cases p <;> cases q <;> simp at h h' ⊢ <;> order
  le_total p q := by
    cases p <;> cases q <;> simp [le_total, le_or_gt, lt_or_ge]
  toDecidableLE := Classical.decRel _

@[simp] theorem before_lt_before {a b : α} : before a < before b ↔ a < b := by
  simp [← not_le]

@[simp] theorem before_lt_after {a b : α} : before a < after b ↔ a ≤ b := by
  simp [← not_le]

@[simp] theorem after_lt_before {a b : α} : after a < before b ↔ a < b := by
  simp [← not_le]

@[simp] theorem after_lt_after {a b : α} : after a < after b ↔ a < b := by
  simp [← not_le]

@[simp] theorem bottom_lt {p : Cut α} : bottom < p ↔ p ≠ bottom := by
  simp [← not_le]

@[simp] theorem lt_top {p : Cut α} : p < top ↔ p ≠ top := by
  simp [← not_le]

@[simp] theorem not_lt_bottom (p : Cut α) : ¬ p < bottom := by
  simp

@[simp] theorem not_top_lt (p : Cut α) : ¬ top < p := by
  simp

/-- The next cut after the one before a value is the one after it. -/
theorem before_lt_iff {a : α} {p : Cut α} : before a < p ↔ after a ≤ p := by
  cases p <;> simp

section Map

variable {β : Type} [LinearOrder β] {f : α → β} {p q : Cut α}

theorem map_le_map_iff (hf : StrictMono f) : p.map f ≤ q.map f ↔ p ≤ q := by
  cases p <;> cases q <;> simp [map, hf.le_iff_le, hf.lt_iff_lt]

theorem map_lt_map_iff (hf : StrictMono f) : p.map f < q.map f ↔ p < q := by
  rw [← not_le, map_le_map_iff hf, not_le]

end Map

end Cut

namespace Endpoint

variable {α : Type}

/-- The cut that a lower end makes. -/
def lowerCut : Endpoint α → Cut α
  | unbounded => .bottom
  | inclusive a => .before a
  | exclusive a => .after a

/-- The cut that an upper end makes. -/
def upperCut : Endpoint α → Cut α
  | unbounded => .top
  | inclusive a => .after a
  | exclusive a => .before a

theorem lowerCut_injective {a b : Endpoint α} (h : a.lowerCut = b.lowerCut) : a = b := by
  cases a <;> cases b <;> cases h <;> rfl

theorem upperCut_injective {a b : Endpoint α} (h : a.upperCut = b.upperCut) : a = b := by
  cases a <;> cases b <;> cases h <;> rfl

@[simp] theorem lowerCut_ne_top (e : Endpoint α) : e.lowerCut ≠ .top := by
  cases e <;> simp [lowerCut]

@[simp] theorem upperCut_ne_bottom (e : Endpoint α) : e.upperCut ≠ .bottom := by
  cases e <;> simp [upperCut]

theorem upperCut_eq_top {e : Endpoint α} : e.upperCut = .top ↔ e.isUnbounded = true := by
  cases e <;> simp [upperCut, isUnbounded]

theorem lowerCut_eq_bottom {e : Endpoint α} : e.lowerCut = .bottom ↔ e.isUnbounded = true := by
  cases e <;> simp [lowerCut, isUnbounded]

/-- The gap after an interval starts where the interval ends. -/
theorem lowerCut_flip {e : Endpoint α} (h : e.isUnbounded = false) :
    e.flip.lowerCut = e.upperCut := by
  cases e <;> first | rfl | cases h

/-- The gap before an interval ends where the interval starts. -/
theorem upperCut_flip {e : Endpoint α} (h : e.isUnbounded = false) :
    e.flip.upperCut = e.lowerCut := by
  cases e <;> first | rfl | cases h

variable [LinearOrder α]

theorem isUnbounded_of_upperCut_lt {e : Endpoint α} {p : Cut α} (h : e.upperCut < p) :
    e.isUnbounded = false := by
  rw [← Bool.not_eq_true, ← upperCut_eq_top]
  intro htop
  rw [htop] at h
  exact Cut.not_top_lt p h

theorem isUnbounded_of_lt_lowerCut {e : Endpoint α} {p : Cut α} (h : p < e.lowerCut) :
    e.isUnbounded = false := by
  rw [← Bool.not_eq_true, ← lowerCut_eq_bottom]
  intro hbottom
  rw [hbottom] at h
  exact Cut.not_lt_bottom p h

/-! ### Orders of ends -/

theorem compareLower_eq_lt {a b : Endpoint α} :
    compareLower a b = .lt ↔ a.lowerCut < b.lowerCut := by
  cases a <;> cases b <;>
    simp [compareLower, lowerCut, Ordering.then_eq_lt, compare_lt_iff_lt, le_iff_lt_or_eq]

theorem compareLower_eq_gt {a b : Endpoint α} :
    compareLower a b = .gt ↔ b.lowerCut < a.lowerCut := by
  cases a <;> cases b <;>
    simp [compareLower, lowerCut, Ordering.then_eq_gt, compare_gt_iff_gt, le_iff_lt_or_eq']

theorem compareUpper_eq_lt {a b : Endpoint α} :
    compareUpper a b = .lt ↔ a.upperCut < b.upperCut := by
  cases a <;> cases b <;>
    simp [compareUpper, upperCut, Ordering.then_eq_lt, compare_lt_iff_lt, le_iff_lt_or_eq]

theorem compareUpper_eq_gt {a b : Endpoint α} :
    compareUpper a b = .gt ↔ b.upperCut < a.upperCut := by
  cases a <;> cases b <;>
    simp [compareUpper, upperCut, Ordering.then_eq_gt, compare_gt_iff_gt, le_iff_lt_or_eq']

theorem lowerCut_maxLower (a b : Endpoint α) :
    (a.maxLower b).lowerCut = max a.lowerCut b.lowerCut := by
  rw [maxLower]
  split
  · rename_i h
    exact (max_eq_left (compareLower_eq_gt.mp (beq_iff_eq.mp h)).le).symm
  · rename_i h
    rw [beq_iff_eq, compareLower_eq_gt, not_lt] at h
    exact (max_eq_right h).symm

theorem upperCut_minUpper (a b : Endpoint α) :
    (a.minUpper b).upperCut = min a.upperCut b.upperCut := by
  rw [minUpper]
  split
  · rename_i h
    exact (min_eq_left (compareUpper_eq_lt.mp (beq_iff_eq.mp h)).le).symm
  · rename_i h
    rw [beq_iff_eq, compareUpper_eq_lt, not_lt] at h
    exact (min_eq_right h).symm

theorem upperCut_maxUpper (a b : Endpoint α) :
    (a.maxUpper b).upperCut = max a.upperCut b.upperCut := by
  rw [maxUpper]
  split
  · rename_i h
    exact (max_eq_left (compareUpper_eq_gt.mp (beq_iff_eq.mp h)).le).symm
  · rename_i h
    rw [beq_iff_eq, compareUpper_eq_gt, not_lt] at h
    exact (max_eq_right h).symm

/-! ### Ends against each other and against values -/

theorem touches_iff {upper lower : Endpoint α} :
    upper.touches lower = true ↔ lower.lowerCut ≤ upper.upperCut := by
  cases upper <;> cases lower <;>
    simp [touches, upperCut, lowerCut, compare_lt_iff_lt, compare_gt_iff_gt]

theorem crosses_iff {lower upper : Endpoint α} :
    lower.crosses upper = true ↔ upper.upperCut ≤ lower.lowerCut := by
  cases lower <;> cases upper <;>
    simp [crosses, upperCut, lowerCut, compare_lt_iff_lt, compare_gt_iff_gt]

theorem admitsAbove_iff {lower : Endpoint α} {v : α} :
    lower.admitsAbove v = true ↔ lower.lowerCut ≤ .before v := by
  cases lower <;> simp [admitsAbove, lowerCut, compare_lt_iff_lt, compare_gt_iff_gt]

theorem admitsBelow_iff {upper : Endpoint α} {v : α} :
    upper.admitsBelow v = true ↔ .before v < upper.upperCut := by
  rw [← not_le]
  cases upper <;> simp [admitsBelow, upperCut, compare_lt_iff_lt, compare_gt_iff_gt]

end Endpoint

end ColumnFilter
