/-
The comparisons of ends are one linear order of cuts.

Lower ends, upper ends, an upper end against a lower one and a lower end against an upper one are
compared by four case distinctions. Each of them compares the cuts that the ends make:

* `Endpoint.compareLower_eq_compare`, `Endpoint.compareUpper_eq_compare`: the two orders of ends;
* `Endpoint.isLinear_compareLower`, `Endpoint.isLinear_compareUpper`: both are linear;
* `Endpoint.compareUpper_eq_compareLower_flip`, `Endpoint.touches_eq_crosses_flip`: what one of
  them says of ends, another says of the flipped ends;
* `Interval.lt_of_precedes`, `Interval.precedes_trans`: an interval that precedes another lies
  below it, and so does one that precedes an interval that precedes it.

`Endpoint.comparisons_agree` collects these laws.
-/
import ColumnFilter.Proofs.Interval.Normal
import ColumnFilter.Proofs.Order.Linear

namespace ColumnFilter

variable {α : Type} [LinearOrder α]

namespace Endpoint

variable {a b : Endpoint α}

/-! ### Linear orders of ends -/

/-- A comparison that is a linear order: oriented, transitive, and equal on equals alone. -/
def IsLinear {β : Type} (cmp : β → β → Ordering) : Prop :=
  Std.TransCmp cmp ∧ Std.LawfulEqCmp cmp

/-- A comparison of keys is linear when different values have different keys. -/
theorem isLinear_of_key {β γ : Type} [LinearOrder γ] {cmp : β → β → Ordering} {key : β → γ}
    (inj : ∀ {x y}, key x = key y → x = y) (h : ∀ x y, cmp x y = compare (key x) (key y)) :
    IsLinear cmp := by
  have htrans : Std.TransCmp cmp :=
    { eq_swap := by
        intro x y
        rw [h, h]
        exact Std.OrientedCmp.eq_swap
      isLE_trans := by
        intro x y z hxy hyz
        rw [h] at hxy hyz ⊢
        exact Std.TransCmp.isLE_trans hxy hyz }
  refine ⟨htrans, { compare_self := ?_, eq_of_compare := ?_ }⟩
  · intro x
    rw [h]
    exact compare_eq_iff_eq.mpr rfl
  · intro x y hxy
    rw [h] at hxy
    exact inj (compare_eq_iff_eq.mp hxy)

theorem compareLower_eq_compare (a b : Endpoint α) :
    compareLower a b = compare a.lowerCut b.lowerCut :=
  eq_compare_of_iff compareLower_eq_lt compareLower_eq_gt

theorem compareUpper_eq_compare (a b : Endpoint α) :
    compareUpper a b = compare a.upperCut b.upperCut :=
  eq_compare_of_iff compareUpper_eq_lt compareUpper_eq_gt

theorem isLinear_compareLower :
    IsLinear (compareLower : Endpoint α → Endpoint α → Ordering) :=
  isLinear_of_key lowerCut_injective compareLower_eq_compare

theorem isLinear_compareUpper :
    IsLinear (compareUpper : Endpoint α → Endpoint α → Ordering) :=
  isLinear_of_key upperCut_injective compareUpper_eq_compare

/-! ### Flipped ends -/

theorem compareUpper_eq_compareLower_flip (ha : a.isUnbounded = false)
    (hb : b.isUnbounded = false) : compareUpper a b = compareLower a.flip b.flip := by
  rw [compareUpper_eq_compare, compareLower_eq_compare, lowerCut_flip ha, lowerCut_flip hb]

/-- An interval meets the next one when the gap between them is empty. -/
theorem touches_eq_crosses_flip (ha : a.isUnbounded = false) (hb : b.isUnbounded = false) :
    a.touches b = a.flip.crosses b.flip := by
  rw [Bool.eq_iff_iff, touches_iff, crosses_iff, lowerCut_flip ha, upperCut_flip hb]

/-! ### What ends admit -/

/-- An end that does not come later admits what the other one admits. -/
theorem admitsAbove_of_compareLower_ne_gt (h : compareLower a b ≠ .gt) {v : α}
    (hv : b.admitsAbove v = true) : a.admitsAbove v = true := by
  rw [Ne, compareLower_eq_gt, not_lt] at h
  exact admitsAbove_iff.mpr (h.trans (admitsAbove_iff.mp hv))

/-- An end that does not come later admits no more than the other one. -/
theorem admitsBelow_of_compareUpper_ne_gt (h : compareUpper a b ≠ .gt) {v : α}
    (hv : a.admitsBelow v = true) : b.admitsBelow v = true := by
  rw [Ne, compareUpper_eq_gt, not_lt] at h
  exact admitsBelow_iff.mpr ((admitsBelow_iff.mp hv).trans_le h)

end Endpoint

namespace Interval

variable {i j k : Interval α}

theorem contains_eq_false_of_isEmpty (h : i.isEmpty = true) (v : α) : i.contains v = false := by
  rw [← Bool.not_eq_true, contains_iff]
  rintro ⟨hl, hu⟩
  exact not_lt_of_ge ((isEmpty_iff.mp h).trans hl) hu

/-- What an interval holds is below what the intervals that it precedes hold. -/
theorem lt_of_precedes (h : i.precedes j = true) {v w : α} (hv : i.contains v = true)
    (hw : j.contains w = true) : v < w := by
  have hgap := (precedes_iff.mp h).2
  have hcut : Cut.before v < Cut.before w :=
    (contains_iff.mp hv).2.trans (hgap.trans_le (contains_iff.mp hw).1)
  exact Cut.before_lt_before.mp hcut

theorem precedes_trans (hij : i.precedes j = true) (hjk : j.precedes k = true) :
    i.precedes k = true := by
  rw [precedes_iff] at hij hjk ⊢
  exact ⟨hij.1.trans hjk.1, hij.2.trans hjk.1⟩

theorem precedes_self (i : Interval α) : i.precedes i = false := by
  rw [← Bool.not_eq_true, precedes_iff]
  exact fun h => lt_irrefl _ h.1

end Interval

namespace Endpoint

/-! ### Main result -/

/-- The case distinctions on ends describe one linear order of cuts.

The first two laws are the orders of ends, the next two turn upper ends into lower ones by
flipping, and the rest say what the orders mean for the values that ends and intervals hold. -/
theorem comparisons_agree :
    IsLinear (compareLower : Endpoint α → Endpoint α → Ordering) ∧
    IsLinear (compareUpper : Endpoint α → Endpoint α → Ordering) ∧
    (∀ a b : Endpoint α, a.isUnbounded = false → b.isUnbounded = false →
      compareUpper a b = compareLower a.flip b.flip) ∧
    (∀ upper lower : Endpoint α, upper.isUnbounded = false → lower.isUnbounded = false →
      upper.touches lower = upper.flip.crosses lower.flip) ∧
    (∀ a : Endpoint α, a.flip.flip = a) ∧
    (∀ lower upper : Endpoint α, lower.crosses upper = true →
      ∀ v, Interval.contains ⟨lower, upper⟩ v = false) ∧
    (∀ a b : Endpoint α, compareLower a b ≠ .gt →
      ∀ v, b.admitsAbove v = true → a.admitsAbove v = true) ∧
    (∀ a b : Endpoint α, compareUpper a b ≠ .gt →
      ∀ v, a.admitsBelow v = true → b.admitsBelow v = true) ∧
    (∀ i j : Interval α, i.precedes j = true →
      ∀ v w, i.contains v = true → j.contains w = true → v < w) ∧
    (∀ i j k : Interval α, i.precedes j = true → j.precedes k = true → i.precedes k = true) ∧
    (∀ i : Interval α, i.precedes i = false) := by
  refine ⟨isLinear_compareLower, isLinear_compareUpper, ?_, ?_, flip_flip, ?_, ?_, ?_, ?_, ?_,
    Interval.precedes_self⟩
  · intro a b ha hb
    exact compareUpper_eq_compareLower_flip ha hb
  · intro upper lower hu hl
    exact touches_eq_crosses_flip hu hl
  · intro lower upper h v
    exact Interval.contains_eq_false_of_isEmpty (i := ⟨lower, upper⟩) h v
  · intro a b h v hv
    exact admitsAbove_of_compareLower_ne_gt h hv
  · intro a b h v hv
    exact admitsBelow_of_compareUpper_ne_gt h hv
  · intro i j h v w hv hw
    exact Interval.lt_of_precedes h hv hw
  · intro i j k hij hjk
    exact Interval.precedes_trans hij hjk

/-- The laws at ends that meet in one value and include it or leave it out. -/
theorem comparisons_agree_at_boundary :
    let two : Bigint := ⟨2, by decide, by decide⟩
    let three : Bigint := ⟨3, by decide, by decide⟩
    compareUpper (exclusive two) (inclusive two) = compareLower (inclusive two) (exclusive two) ∧
    (exclusive two).touches (inclusive two) = (inclusive two).crosses (exclusive two) ∧
    (∀ v, Interval.contains ⟨inclusive two, exclusive two⟩ v = false) ∧
    (∀ v, (exclusive two).admitsAbove v = true → (inclusive two).admitsAbove v = true) ∧
    (∀ v, (exclusive two).admitsBelow v = true → (inclusive two).admitsBelow v = true) ∧
    (∀ v w, (Interval.below two).contains v = true → (Interval.above two).contains w = true →
      v < w) ∧
    (Interval.below two).precedes (Interval.above three) = true := by
  intro two three
  obtain ⟨-, -, hflip, hmeet, -, hempty, habove, hbelow, hlt, htrans, -⟩ :=
    comparisons_agree (α := Bigint)
  exact ⟨hflip _ _ rfl rfl, hmeet _ _ rfl rfl, hempty _ _ (by decide), habove _ _ (by decide),
    hbelow _ _ (by decide), hlt _ _ (by decide),
    htrans _ ⟨.exclusive two, .exclusive three⟩ _ (by decide) (by decide)⟩

end Endpoint

end ColumnFilter
