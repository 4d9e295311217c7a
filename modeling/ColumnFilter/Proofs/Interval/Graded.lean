/-
Intervals under a comparison coarser than their order.

Floats are put in order by one comparison and held against limits by another, in which the two
zeros are equal and a NaN compares with nothing. `Graded` says how far apart the two may be: the
coarse comparison is that of levels, which follow the order, and no three values in a row share
a level.

Of two intervals that are not empty, the first ending with a gap before the second, under such a
comparison

* what the second admits at its lower end the first admits there too
  (`Interval.admitsAboveBy_of_gap`);
* of what the first admits, the second leaves nothing beyond its upper end
  (`Interval.admitsBelowBy_of_gap`).

These are the two facts by which a binary search over lower ends finds what it looks for.
-/
import ColumnFilter.Proofs.Interval.Reading

namespace ColumnFilter

/-! ### Graded comparisons -/

/-- Comparisons by level. Values that are not proper compare with nothing. -/
structure Graded {α L : Type} [LinearOrder α] [LinearOrder L] (lt le : α → α → Bool)
    (proper : α → Prop) (level : α → L) : Prop where
  lt_iff {a b : α} : lt a b = true ↔ (proper a ∧ proper b) ∧ level a < level b
  le_iff {a b : α} : le a b = true ↔ (proper a ∧ proper b) ∧ level a ≤ level b
  level_mono {a b : α} : a ≤ b → level a ≤ level b
  /-- With a value in between, levels differ. -/
  level_lt {a b c : α} : a < b → b < c → level a < level c

namespace Graded

variable {α L : Type} [LinearOrder α] [LinearOrder L] {lt le : α → α → Bool}
  {proper : α → Prop} {level : α → L} {v : α}

/-- With a cut in between, the levels of cuts are in order. -/
theorem map_le_map (hg : Graded lt le proper level) {p q r : Cut α} (h : p < q) (h' : q < r) :
    p.map level ≤ r.map level := by
  have hpr := h.trans h'
  cases p with
  | bottom => exact Cut.bottom_le _
  | top => exact absurd h (Cut.not_top_lt q)
  | before a =>
    -- here the order of the values is enough
    cases r with
    | bottom => exact absurd h' (Cut.not_lt_bottom q)
    | top => exact Cut.le_top _
    | before b => exact hg.level_mono (Cut.before_lt_before.mp hpr).le
    | after b => exact hg.level_mono (Cut.before_lt_after.mp hpr)
  | after a =>
    cases r with
    | bottom => exact absurd h' (Cut.not_lt_bottom q)
    | top => exact Cut.le_top _
    | after b => exact hg.level_mono (Cut.after_lt_after.mp hpr).le
    | before b =>
      -- the values may be the two zeros, but for the cut in between
      cases q with
      | bottom => exact absurd h (Cut.not_lt_bottom _)
      | top => exact absurd h' (Cut.not_top_lt _)
      | before c => exact hg.level_lt (Cut.after_lt_before.mp h) (Cut.before_lt_before.mp h')
      | after c => exact hg.level_lt (Cut.after_lt_after.mp h) (Cut.after_lt_before.mp h')

theorem admitsAboveBy_iff (hg : Graded lt le proper level) {e : Endpoint α} :
    e.admitsAboveBy (.plain lt le) v = true ↔
      (∀ a ∈ e.value?, proper a ∧ proper v) ∧ e.lowerCut.map level ≤ .before (level v) := by
  cases e <;> simp [Endpoint.admitsAboveBy, Reading.plain, Endpoint.value?, Endpoint.lowerCut,
    Cut.map, hg.lt_iff, hg.le_iff]

theorem admitsBelowBy_iff (hg : Graded lt le proper level) {e : Endpoint α} :
    e.admitsBelowBy (.plain lt le) v = true ↔
      (∀ a ∈ e.value?, proper a ∧ proper v) ∧ .before (level v) < e.upperCut.map level := by
  cases e <;> simp [Endpoint.admitsBelowBy, Reading.plain, Endpoint.value?, Endpoint.upperCut,
    Cut.map, hg.lt_iff, hg.le_iff, and_comm]

/-- A value that is not proper passes no end. -/
theorem admitsBy_of_not_proper (hg : Graded lt le proper level) (hv : ¬ proper v)
    (i : Interval α) : i.admitsBy (.plain lt le) v = i.isAll := by
  rw [Bool.eq_iff_iff, Interval.admitsBy, Bool.and_eq_true, hg.admitsAboveBy_iff,
    hg.admitsBelowBy_iff, Interval.isAll_iff]
  -- a bound admits proper values only, so an interval that admits another has no bounds
  constructor
  · rintro ⟨⟨hl, -⟩, ⟨hu, -⟩⟩
    obtain ⟨l, u⟩ := i
    cases l with
    | unbounded =>
      cases u with
      | unbounded => rfl
      | inclusive a => exact absurd (hu a rfl).2 hv
      | exclusive a => exact absurd (hu a rfl).2 hv
    | inclusive a => exact absurd (hl a rfl).2 hv
    | exclusive a => exact absurd (hl a rfl).2 hv
  · rintro rfl
    simp [Interval.all, Endpoint.value?, Endpoint.lowerCut, Endpoint.upperCut, Cut.map]

end Graded

/-! ### Intervals with a gap between them -/

theorem Endpoint.exists_value {α : Type} {e : Endpoint α} (h : e.isUnbounded = false) :
    ∃ a, a ∈ e.value? := by
  cases e with
  | unbounded => cases h
  | inclusive a => exact ⟨a, rfl⟩
  | exclusive a => exact ⟨a, rfl⟩

theorem Endpoint.value_le_of_lowerCut_lt {α : Type} [LinearOrder α] {e e' : Endpoint α}
    (h : e.lowerCut < e'.lowerCut) {a b : α} (ha : a ∈ e.value?) (hb : b ∈ e'.value?) : a ≤ b := by
  cases e <;> cases e' <;> cases ha <;> cases hb
  · exact (Cut.before_lt_before.mp h).le
  · exact Cut.before_lt_after.mp h
  · exact (Cut.after_lt_before.mp h).le
  · exact (Cut.after_lt_after.mp h).le

namespace Interval

variable {α L : Type} [LinearOrder α] [LinearOrder L] {lt le : α → α → Bool}
  {proper : α → Prop} {level : α → L} {i j : Interval α} {v : α}

theorem admitsAboveBy_of_gap (hg : Graded lt le proper level) (hi : i.isEmpty = false)
    (hij : i.upperCut < j.lowerCut)
    (hproper : ∀ a ∈ i.lower.value?, ∀ b, a ≤ b → proper b → proper a)
    (h : j.lower.admitsAboveBy (.plain lt le) v = true) :
    i.lower.admitsAboveBy (.plain lt le) v = true := by
  rw [hg.admitsAboveBy_iff] at h ⊢
  obtain ⟨hj, hle⟩ := h
  have hi := isEmpty_eq_false_iff.mp hi
  refine ⟨fun a ha => ?_, (hg.map_le_map hi hij).trans hle⟩
  -- the lower end after a gap is not missing
  obtain ⟨b, hb⟩ := Endpoint.exists_value (Endpoint.isUnbounded_of_lt_lowerCut hij)
  have hab : a ≤ b := Endpoint.value_le_of_lowerCut_lt (hi.trans hij) ha hb
  exact ⟨hproper a ha b hab (hj b hb).1, (hj b hb).2⟩

theorem admitsBelowBy_of_gap (hg : Graded lt le proper level) (hj : j.isEmpty = false)
    (hij : i.upperCut < j.lowerCut) (hproper : ∀ a ∈ j.upper.value?, proper a)
    (h : i.upper.admitsBelowBy (.plain lt le) v = true) :
    j.upper.admitsBelowBy (.plain lt le) v = true := by
  rw [hg.admitsBelowBy_iff] at h ⊢
  obtain ⟨hi, hlt⟩ := h
  refine ⟨fun a ha => ⟨hproper a ha, ?_⟩, ?_⟩
  · -- the upper end before a gap is not missing
    obtain ⟨b, hb⟩ := Endpoint.exists_value (Endpoint.isUnbounded_of_upperCut_lt hij)
    exact (hi b hb).2
  · exact hlt.trans_le (hg.map_le_map hij (isEmpty_eq_false_iff.mp hj))

end Interval

end ColumnFilter
