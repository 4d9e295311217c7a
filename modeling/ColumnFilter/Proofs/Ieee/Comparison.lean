/-
The comparison of numbers against the total order.

* `Ieee.graded`: numbers compare by level, which follows the total order and joins nothing but
  the two zeros.
* `Ieee.lt_eq_decide` and `Ieee.le_eq_decide`: away from NaN, and of two values that are not both
  zeros, the comparison of numbers is the total order.
* `Ieee.levelEnds_zero` and `Ieee.levelEnds_self`: the two zeros are a level, and any other value
  is a level of its own. So the zeros are the only values in order on one level
  (`Ieee.zeros_of_lt`).
* `Ieee.isNaN_of_le`: in the total order, no number is beyond a NaN that is not negative.
-/
import ColumnFilter.Ieee.Basic
import ColumnFilter.Proofs.Interval.Levels
import ColumnFilter.Proofs.Order.Linear

namespace ColumnFilter.Ieee

variable {f : FloatFormat} {x y : Ieee f}

theorem rank_le_level (x : Ieee f) : x.rank ≤ x.level := by
  rw [rank, level]
  split <;> omega

theorem level_le_rank_add_one (x : Ieee f) : x.level ≤ x.rank + 1 := by
  rw [rank, level]
  split <;> omega

theorem graded : Graded (lt (f := f)) le (fun x => x.isNaN = false) level where
  lt_iff := by simp [lt]
  le_iff := by simp [le]
  -- a level is the rank or one more, and only the zeros share one
  level_mono {x y} h := by
    rcases h.eq_or_lt with rfl | h
    · exact le_rfl
    · have hrank := lt_iff_rank.mp h
      have := x.level_le_rank_add_one
      have := y.rank_le_level
      omega
  level_lt {x y z} h h' := by
    have hrank := lt_iff_rank.mp h
    have hrank' := lt_iff_rank.mp h'
    have := x.level_le_rank_add_one
    have := z.rank_le_level
    omega

/-- Only zeros share a level. -/
theorem level_lt_level (h : x.isZero = false ∨ y.isZero = false) :
    x.level < y.level ↔ x < y := by
  rw [lt_iff_rank]
  simp only [isZero, beq_eq_false_iff_ne] at h
  unfold level rank
  split <;> split <;> omega

theorem lt_eq_decide (hx : x.isNaN = false) (hy : y.isNaN = false)
    (h : x.isZero = false ∨ y.isZero = false) : lt x y = decide (x < y) := by
  rw [Bool.eq_iff_iff, graded.lt_iff, level_lt_level h, decide_eq_true_iff]
  exact and_iff_right ⟨hx, hy⟩

theorem le_eq_decide (hx : x.isNaN = false) (hy : y.isNaN = false)
    (h : x.isZero = false ∨ y.isZero = false) : le x y = decide (x ≤ y) := by
  rw [Bool.eq_iff_iff, graded.le_iff, ← not_lt, level_lt_level h.symm, not_lt,
    decide_eq_true_iff]
  exact and_iff_right ⟨hx, hy⟩

/-! ### Levels -/

/-- The zero of a sign. -/
def zero (negative : Bool) : Ieee f := ⟨negative, 0, f.magnitudes_pos⟩

theorem zero_lt_zero : (zero true : Ieee f) < zero false :=
  lt_iff_rank.mpr (by simp [rank, zero])

theorem level_zero (negative : Bool) : (zero negative : Ieee f).level = 0 := by
  cases negative <;> rfl

theorem level_of_isZero (h : x.isZero = true) : x.level = 0 := by
  simp only [isZero, beq_iff_eq] at h
  simp [level, h]

theorem levelEnds_zero (h : x.isZero = true) : LevelEnds level x (zero true) (zero false) := by
  refine graded.levelEnds_pair zero_lt_zero ?_ ?_
  · rw [level_zero, level_of_isZero h]
  · rw [level_zero, level_of_isZero h]

theorem levelEnds_self (h : x.isZero = false) : LevelEnds level x x x := by
  refine graded.levelEnds_single fun c hc => ?_
  rcases lt_trichotomy c x with hlt | heq | hgt
  · exact absurd hc ((level_lt_level (.inr h)).mpr hlt).ne
  · exact heq
  · exact absurd hc ((level_lt_level (.inl h)).mpr hgt).ne'

theorem eq_zero_of_isZero (h : x.isZero = true) : x = zero x.negative := by
  obtain ⟨negative, magnitude, hlt⟩ := x
  obtain rfl : magnitude = 0 := beq_iff_eq.mp h
  rfl

/-- The negative zero is the only value with a greater one on its level. -/
theorem zeros_of_lt (h : x < y) (hlevel : y.level ≤ x.level) : x = zero true ∧ y = zero false := by
  have hzeros : x.isZero = true ∧ y.isZero = true := by
    rw [← Bool.not_eq_false, ← Bool.not_eq_false, ← not_or]
    exact fun hnot => absurd ((level_lt_level hnot).mpr h) hlevel.not_gt
  obtain ⟨hx, hy⟩ := hzeros
  rw [eq_zero_of_isZero hx, eq_zero_of_isZero hy, lt_iff_rank] at h
  cases hxn : x.negative <;> cases hyn : y.negative <;> rw [hxn, hyn] at h <;>
    simp [rank, zero] at h
  exact ⟨hxn ▸ eq_zero_of_isZero hx, hyn ▸ eq_zero_of_isZero hy⟩

/-- Beyond a NaN above the numbers there is no number. -/
theorem isNaN_of_le (h : x ≤ y) (hpos : x.negative = false) (hx : x.isNaN = true) :
    y.isNaN = true := by
  have hrank := le_iff_rank.mp h
  simp only [isNaN, decide_eq_true_eq] at hx ⊢
  simp only [rank, hpos, Bool.false_eq_true, if_false] at hrank
  split at hrank <;> omega

end ColumnFilter.Ieee
