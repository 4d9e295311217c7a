/-
The order of scalars, in terms of what they carry.

Scalars of one kind compare by their payloads and all others by kind, so the rule changes along a
chain of scalars of several kinds. The order is linear nevertheless:

* `Ieee.totalOrder_compare`: floats compare as their words do, and so as the numbers that these
  stand for (`Ieee.TotalOrder`);
* `Scalar.same_iff`: scalars are equal when they are of one kind and carry the same, floats bit
  for bit (`Scalar.Same`);
* `Scalar.compareWithin_eq_some_iff`: what the comparison by value says, and of which scalars;
* `Scalar.compare_lawful` collects these laws with those of a linear order.
-/
import ColumnFilter.Proofs.Ieee.Encoding

namespace ColumnFilter

/-! ### Floats -/

namespace Ieee

/-- A comparison of floats in their total order: that of words as signed integers, and so that of
numbers, with `-0` before `0` and NaN beyond the numbers on the side of its sign. -/
structure TotalOrder {f : FloatFormat} (cmp : Ieee f → Ieee f → Ordering) : Prop where
  words : ∀ x y, cmp x y = compare x.orderWord.toInt y.orderWord.toInt
  numbers : ∀ x y, x.isNaN = false → y.isNaN = false →
    (cmp x y = .lt ↔ lt x y = true ∨ x = zero true ∧ y = zero false)
  /-- The comparison of numbers is about what the words stand for. -/
  units : ∀ x y : Ieee f, x.isNaN = false → y.isNaN = false →
    (lt x y = true ↔ x.units < y.units)
  negative_nan : ∀ x y, x.isNaN = true → x.negative = true → y.isNaN = false → cmp x y = .lt
  positive_nan : ∀ x y, x.isNaN = true → x.negative = false → y.isNaN = false → cmp x y = .gt

theorem totalOrder_compare {f : FloatFormat} :
    TotalOrder (compare : Ieee f → Ieee f → Ordering) where
  words x y := by
    rw [toInt_orderWord, toInt_orderWord]
    rfl
  numbers x y hx hy := by
    rw [compare_lt_iff_lt]
    exact lt_iff_of_numbers hx hy
  units x y hx hy := by
    rw [graded.lt_iff, level_lt_iff_units]
    exact and_iff_right ⟨hx, hy⟩
  negative_nan x y hx hneg hy := by
    rw [compare_lt_iff_lt]
    exact lt_of_negative_nan hx hneg hy
  positive_nan x y hx hpos hy := by
    rw [compare_gt_iff_gt]
    exact lt_of_positive_nan hx hpos hy

end Ieee

/-! ### Payloads -/

namespace Scalar

/-- Scalars of one kind that carry the same: floats the same word, texts the same characters. -/
def Same : Scalar → Scalar → Prop
  | boolean a, boolean b => a = b
  | int64 a, int64 b => a.val = b.val
  | float32 x, float32 y => x.toBits = y.toBits
  | float64 x, float64 y => x.toBits = y.toBits
  | decimal128 a, decimal128 b => a.val = b.val
  | utf8 s, utf8 t => s = t
  | binary a, binary b => a.toList = b.toList
  | _, _ => False

theorem same_self (a : Scalar) : a.Same a := by
  cases a <;> rfl

theorem eq_of_same {a b : Scalar} (h : a.Same b) : a = b := by
  cases a with
  | boolean a =>
    cases b <;> first | exact h.elim | exact congrArg boolean h
  | int64 a =>
    cases b <;> first | exact h.elim | exact congrArg int64 (IntIn.ext h)
  | float32 x =>
    cases b <;> first | exact h.elim | exact congrArg float32 (Ieee.toBits_injective h)
  | float64 x =>
    cases b <;> first | exact h.elim | exact congrArg float64 (Ieee.toBits_injective h)
  | decimal128 a =>
    cases b <;> first | exact h.elim | exact congrArg decimal128 (IntIn.ext h)
  | utf8 s =>
    cases b <;> first | exact h.elim | exact congrArg utf8 h
  | binary a =>
    cases b <;> first | exact h.elim | exact congrArg binary (Bytes.ext h)

theorem same_iff {a b : Scalar} : a.Same b ↔ a = b :=
  ⟨eq_of_same, fun h => h ▸ a.same_self⟩

/-! ### Comparison by value -/

theorem compareWithin_of_kind_eq {a b : Scalar} (h : a.kind = b.kind) :
    compareWithin a b = some (compare a b) := by
  cases a <;> cases b <;> first | rfl | cases h

theorem compareWithin_of_kind_ne {a b : Scalar} (h : a.kind ≠ b.kind) :
    compareWithin a b = none := by
  cases a <;> cases b <;> first | rfl | exact absurd rfl h

/-- Comparison by value is for scalars of one kind, where it is their order. -/
theorem compareWithin_eq_some_iff {a b : Scalar} {o : Ordering} :
    compareWithin a b = some o ↔ a.kind = b.kind ∧ compare a b = o := by
  by_cases h : a.kind = b.kind
  · simp [compareWithin_of_kind_eq h, h]
  · simp [compareWithin_of_kind_ne h, h]

/-- Between kinds, payloads do not matter. -/
theorem compare_congr_of_kind {a b a' b' : Scalar} (ha : a.kind = a'.kind) (hb : b.kind = b'.kind)
    (h : a.kind ≠ b.kind) : compare a b = compare a' b' := by
  rw [compare_of_kind_ne h, ha, hb, compare_of_kind_ne (ha ▸ hb ▸ h)]

/-! ### Main result -/

/-- The order of scalars is linear, and equality is equality of what they carry.

The first three laws are those of a total order, the next two its equality, the next two its part
inside the kinds and its part between them, and the last two the order of floats. -/
theorem compare_lawful :
    (∀ a b : Scalar, compare a b = (compare b a).swap) ∧
    (∀ a b c : Scalar, (compare a b).isLE = true → (compare b c).isLE = true →
      (compare a c).isLE = true) ∧
    (∀ a b : Scalar, (compare a b).isLE = true ∨ (compare b a).isLE = true) ∧
    (∀ a b : Scalar, (compare a b).isLE = true → (compare b a).isLE = true → a = b) ∧
    (∀ a b : Scalar, (compare a b = .eq ↔ a = b) ∧ (a = b ↔ a.Same b)) ∧
    (∀ (a b : Scalar) (o : Ordering),
      compareWithin a b = some o ↔ a.kind = b.kind ∧ compare a b = o) ∧
    (∀ a b a' b' : Scalar, a.kind = a'.kind → b.kind = b'.kind → a.kind ≠ b.kind →
      compare a b = compare a' b') ∧
    Ieee.TotalOrder (fun x y => compare (float32 x) (float32 y)) ∧
    Ieee.TotalOrder (fun x y => compare (float64 x) (float64 y)) := by
  refine ⟨compare_eq_swap, fun a b c => isLE_trans, ?_, ?_, ?_, ?_, ?_, ?_, ?_⟩
  · intro a b
    rw [Std.isLE_compare, Std.isLE_compare]
    exact le_total a b
  · intro a b hab hba
    exact le_antisymm (Std.isLE_compare.mp hab) (Std.isLE_compare.mp hba)
  · intro a b
    exact ⟨compare_eq_iff_eq, same_iff.symm⟩
  · intro a b o
    exact compareWithin_eq_some_iff
  · intro a b a' b' ha hb h
    exact compare_congr_of_kind ha hb h
  · exact Ieee.totalOrder_compare
  · exact Ieee.totalOrder_compare

/-- A chain of scalars of two kinds and of floats on either side of the numbers. -/
theorem compare_lawful_chain :
    let nan : Double := ⟨true, FloatFormat.binary64.magnitudes - 1, by decide⟩
    (compare (int64 ⟨1, by decide, by decide⟩) (float64 (.zero false))).isLE = true ∧
    compare (float64 nan) (float64 (.zero true)) = .lt ∧
    compare (float64 (.zero true)) (float64 (.zero false)) = .lt ∧
    compare (int64 ⟨5, by decide, by decide⟩) (float64 nan) =
      compare (int64 ⟨7, by decide, by decide⟩) (float64 (.zero true)) := by
  intro nan
  obtain ⟨-, htrans, -, -, -, -, hkinds, -, hfloats⟩ := compare_lawful
  exact ⟨htrans _ (float64 nan) _ (by decide) (by decide),
    hfloats.negative_nan _ _ (by decide) rfl (by decide),
    (hfloats.numbers _ _ (by decide) (by decide)).mpr (.inr ⟨rfl, rfl⟩),
    hkinds _ _ _ _ rfl rfl (by decide)⟩

end Scalar

end ColumnFilter
