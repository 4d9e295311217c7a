/-
The values of a column form linear orders.

Bounded integers, floats in their total order, byte strings and scalars are each compared by a
lawful total order; here that comparison becomes a linear order, so that the lemmas on `≤`, `<`,
`min` and `max` apply to it.

* `Scalar.compare_of_kind_ne`: scalars of different kinds compare by kind alone.
* `compare` on scalars is transitive and antisymmetric (`Scalar.isLE_trans`,
  `Scalar.eq_of_compare_eq`), although it mixes eight comparisons.
* `eq_compare_of_iff` recognizes the comparison of a linear order by its two strict outcomes.
* `IntIn.le_iff`, `IntIn.lt_iff`, `Ieee.le_iff_rank` and `Ieee.lt_iff_rank` read the orders of
  integers and floats off their keys, and `Bytes.le_iff` and `Bytes.lt_iff` that of byte strings
  off the lists of their bytes.
-/
import ColumnFilter.Scalar
import Mathlib.Order.Lattice
import Mathlib.Order.Std

namespace ColumnFilter

/-! ### Comparisons -/

/-- An outcome that is less and greater where a comparison is, is that comparison. -/
theorem eq_compare_of_iff {α : Type} [LinearOrder α] {o : Ordering} {a b : α}
    (hlt : o = .lt ↔ a < b) (hgt : o = .gt ↔ b < a) : o = compare a b := by
  rcases lt_trichotomy a b with h | h | h
  · rw [hlt.mpr h, compare_lt_iff_lt.mpr h]
  · rw [compare_eq_iff_eq.mpr h]
    cases o with
    | lt => exact absurd (hlt.mp rfl) (not_lt_of_ge h.ge)
    | eq => rfl
    | gt => exact absurd (hgt.mp rfl) (not_lt_of_ge h.le)
  · rw [hgt.mpr h, compare_gt_iff_gt.mpr h]

/-! ### Integers and floats -/

namespace IntIn

variable {lo hi : Int} {a b : IntIn lo hi}

instance : LinearOrder (IntIn lo hi) := .ofStd (IntIn lo hi)

theorem lt_iff : a < b ↔ a.val < b.val := by
  rw [← compare_lt_iff_lt, compare_eq_lt]

theorem le_iff : a ≤ b ↔ a.val ≤ b.val := by
  rw [← not_lt, lt_iff, Int.not_lt]

end IntIn

namespace Ieee

variable {f : FloatFormat} {x y : Ieee f}

instance : LinearOrder (Ieee f) := .ofStd (Ieee f)

theorem lt_iff_rank : x < y ↔ x.rank < y.rank := by
  rw [← compare_lt_iff_lt]
  exact Int.compare_eq_lt

theorem le_iff_rank : x ≤ y ↔ x.rank ≤ y.rank := by
  rw [← not_lt, lt_iff_rank, Int.not_lt]

end Ieee

/-! ### Byte strings -/

namespace Bytes

variable {a b : Bytes}

instance : LinearOrder Bytes := .ofStd Bytes

theorem compare_list_eq_lt {xs ys : List UInt8} : compare xs ys = .lt ↔ xs < ys := by
  induction xs generalizing ys with
  | nil => cases ys <;> simp
  | cons x xs ih =>
    cases ys with
    | nil => simp
    | cons y ys =>
      -- either the first bytes decide, or they are equal and the rests decide
      rw [List.compare_cons_cons, Ordering.then_eq_lt, Std.compare_eq_lt,
        Std.LawfulEqOrd.compare_eq_iff_eq, ih, List.cons_lt_cons_iff]

theorem lt_iff : a < b ↔ a.toList < b.toList := by
  rw [← compare_lt_iff_lt]
  exact compare_list_eq_lt

theorem le_iff : a ≤ b ↔ a.toList ≤ b.toList := by
  rw [← not_lt, lt_iff, List.not_lt]

theorem ofString_inj {s t : String} : ofString s = ofString t ↔ s = t :=
  ⟨ofString_injective, congrArg ofString⟩

end Bytes

/-! ### Scalars -/

namespace ScalarKind

theorem rank_injective {k l : ScalarKind} (h : k.rank = l.rank) : k = l := by
  cases k <;> cases l <;> first | rfl | cases h

instance : Std.TransOrd ScalarKind := inferInstanceAs (Std.TransCmp (compareOn rank))

instance : Std.LawfulEqOrd ScalarKind where
  compare_self := Int.compare_eq_eq.mpr rfl
  eq_of_compare h := rank_injective (Int.compare_eq_eq.mp h)

end ScalarKind

namespace Scalar

@[simp] theorem compare_boolean (a b : Bool) :
    compare (boolean a) (boolean b) = compare a b := by
  cases a <;> cases b <;> rfl

@[simp] theorem compare_int64 (a b : Bigint) :
    compare (int64 a) (int64 b) = compare a b := rfl

@[simp] theorem compare_float32 (x y : Single) :
    compare (float32 x) (float32 y) = compare x y := rfl

@[simp] theorem compare_float64 (x y : Double) :
    compare (float64 x) (float64 y) = compare x y := rfl

@[simp] theorem compare_decimal128 (a b : Hugeint) :
    compare (decimal128 a) (decimal128 b) = compare a b := rfl

@[simp] theorem compare_utf8 (s t : String) :
    compare (utf8 s) (utf8 t) = compare (Bytes.ofString s) (Bytes.ofString t) := rfl

@[simp] theorem compare_binary (a b : Bytes) :
    compare (binary a) (binary b) = compare a b := rfl

/-- Scalars of different kinds compare by kind alone. -/
theorem compare_of_kind_ne {a b : Scalar} (h : a.kind ≠ b.kind) :
    compare a b = compare a.kind b.kind := by
  cases a <;> cases b <;> first | rfl | exact absurd rfl h

theorem compare_eq_swap (a b : Scalar) : compare a b = (compare b a).swap := by
  by_cases h : a.kind = b.kind
  · cases a <;> cases b <;> cases h <;> simp <;> exact Std.OrientedOrd.eq_swap
  · rw [compare_of_kind_ne h, compare_of_kind_ne (Ne.symm h)]
    exact Std.OrientedOrd.eq_swap

theorem isLE_trans_of_kind_eq {a b c : Scalar} (hab : a.kind = b.kind) (hbc : b.kind = c.kind)
    (h : (compare a b).isLE = true) (h' : (compare b c).isLE = true) :
    (compare a c).isLE = true := by
  cases a <;> cases b <;> cases hab <;> cases c <;> cases hbc <;> simp at h h' ⊢ <;>
    exact Std.TransOrd.isLE_trans h h'

theorem isLE_trans {a b c : Scalar} (h : (compare a b).isLE = true)
    (h' : (compare b c).isLE = true) : (compare a c).isLE = true := by
  by_cases hab : a.kind = b.kind
  · by_cases hbc : b.kind = c.kind
    · exact isLE_trans_of_kind_eq hab hbc h h'
    · rw [compare_of_kind_ne hbc] at h'
      rw [compare_of_kind_ne (hab ▸ hbc), hab]
      exact h'
  · rw [compare_of_kind_ne hab] at h
    by_cases hbc : b.kind = c.kind
    · rw [compare_of_kind_ne (hbc ▸ hab), ← hbc]
      exact h
    · rw [compare_of_kind_ne hbc] at h'
      by_cases hac : a.kind = c.kind
      · -- kinds that are below each other are equal
        rw [← hac] at h'
        exact absurd (Std.LawfulEqOrd.eq_of_compare
          (Std.OrientedCmp.isLE_antisymm h h')) hab
      · rw [compare_of_kind_ne hac]
        exact Std.TransOrd.isLE_trans h h'

instance : Std.TransOrd Scalar where
  eq_swap := compare_eq_swap _ _
  isLE_trans := isLE_trans

theorem eq_of_compare_eq {a b : Scalar} (h : compare a b = .eq) : a = b := by
  by_cases hk : a.kind = b.kind
  · cases a <;> cases b <;> cases hk <;> simp [Bytes.ofString_inj] at h <;> rw [h]
  · rw [compare_of_kind_ne hk] at h
    exact absurd (Std.LawfulEqOrd.eq_of_compare h) hk

instance : Std.LawfulEqOrd Scalar where
  compare_self {a} := by cases a <;> simp
  eq_of_compare := eq_of_compare_eq

instance : LinearOrder Scalar := .ofStd Scalar

end Scalar

end ColumnFilter
