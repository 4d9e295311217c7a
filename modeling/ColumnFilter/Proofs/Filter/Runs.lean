/-
Runs of integers.

A run is a range of integers with a property that is part of no other range of such integers.

* `IntegerRange.mem_iff_isRun`: ranges that ascend, no two of them adjacent, are the runs of the
  set that they make up, whatever set it is.
* `Filter.integerRanges?` are the ranges that a filter over integers is made of; those of a set are
  its members, one by one (`IntegerSet.map_point_members`).

NULL is no matter of runs, so all of these ranges have their null flags cleared.
-/
import ColumnFilter.Proofs.Filter.Sets
import ColumnFilter.Proofs.Interval.Normal

namespace ColumnFilter

/-! ### Runs -/

namespace IntegerRange

variable {r s : IntegerRange} {ranges : List IntegerRange} {free : Bigint → Prop} {v : Bigint}

/-- The range of one integer. -/
def point (n : Bigint) : IntegerRange := ⟨n, n, false, Int.le_refl _⟩

theorem point_lower (h : r.isPoint = true) : point r.lower = r.withNullAllowed false := by
  obtain ⟨l, u, n, hle⟩ := r
  obtain rfl : l = u := beq_iff_eq.mp h
  rfl

theorem ext_ends (h : r.ends = s.ends) (hnull : r.nullAllowed = s.nullAllowed) : r = s := by
  obtain ⟨l, u, n, hle⟩ := r
  obtain ⟨l', u', n', hle'⟩ := s
  cases h
  cases hnull
  rfl

/-- A range of free integers that is part of no other. -/
structure IsRun (free : Bigint → Prop) (r : IntegerRange) : Prop where
  within : ∀ v, r.contains v = true → free v
  maximal : ∀ s : IntegerRange, (∀ v, r.contains v = true → s.contains v = true) →
    (∀ v, s.contains v = true → free v) → s.ends = r.ends

/-- Some integer is above a range and below another. -/
def IsApart (r s : IntegerRange) : Prop := r.upper.val + 1 < s.lower.val

theorem contains_lower (r : IntegerRange) : r.contains r.lower = true :=
  contains_iff.mpr ⟨Int.le_refl _, r.lower_le_upper⟩

theorem contains_upper (r : IntegerRange) : r.contains r.upper = true :=
  contains_iff.mpr ⟨r.lower_le_upper, Int.le_refl _⟩

/-- Ranges have the same ends when each reaches as far as the other. -/
theorem ends_eq_of_le (hl : r.lower.val ≤ s.lower.val) (hl' : s.lower.val ≤ r.lower.val)
    (hu : r.upper.val ≤ s.upper.val) (hu' : s.upper.val ≤ r.upper.val) : r.ends = s.ends :=
  Prod.ext (IntIn.ext (Int.le_antisymm hl hl')) (IntIn.ext (Int.le_antisymm hu hu'))

section Apart

variable (hapart : ranges.Pairwise IsApart)
  (hfree : ∀ v, (∃ r ∈ ranges, r.contains v = true) ↔ free v)

include hapart hfree

/-- Next to a range no integer is free, outside of it. -/
theorem contains_of_free (hr : r ∈ ranges) (hv : free v) (hl : r.lower.val - 1 ≤ v.val)
    (hu : v.val ≤ r.upper.val + 1) : r.contains v = true := by
  obtain ⟨s, hs, hsv⟩ := (hfree v).mpr hv
  obtain ⟨hsl, hsu⟩ := contains_iff.mp hsv
  rcases eq_or_rel_or_rel hapart hr hs with rfl | hrs | hsr
  · exact hsv
  · -- `s` starts beyond `v`
    have hgap : r.upper.val + 1 < s.lower.val := hrs
    omega
  · have hgap : s.upper.val + 1 < r.lower.val := hsr
    omega

/-- A range of free integers does not reach beyond a range that it meets. -/
theorem le_of_free (hr : r ∈ ranges) (hs : ∀ w, s.contains w = true → free w)
    (hrv : r.contains v = true) (hsv : s.contains v = true) :
    r.lower.val ≤ s.lower.val ∧ s.upper.val ≤ r.upper.val := by
  obtain ⟨hrl, hru⟩ := contains_iff.mp hrv
  obtain ⟨hsl, hsu⟩ := contains_iff.mp hsv
  constructor
  · by_contra hlt
    -- the integer before `r` would be free
    let w : Bigint := ⟨r.lower.val - 1, by have := s.lower.lo_le; omega,
      by have := r.lower.le_hi; omega⟩
    have hw : s.contains w = true :=
      contains_iff.mpr ⟨show s.lower.val ≤ r.lower.val - 1 by omega,
        show r.lower.val - 1 ≤ s.upper.val by omega⟩
    have hin := contains_of_free hapart hfree hr (hs w hw) (Int.le_refl _)
      (show r.lower.val - 1 ≤ r.upper.val + 1 by omega)
    have hle : r.lower.val ≤ r.lower.val - 1 := (contains_iff.mp hin).1
    omega
  · by_contra hlt
    -- so would the integer after it
    let w : Bigint := ⟨r.upper.val + 1, by have := r.upper.lo_le; omega,
      by have := s.upper.le_hi; omega⟩
    have hw : s.contains w = true :=
      contains_iff.mpr ⟨show s.lower.val ≤ r.upper.val + 1 by omega,
        show r.upper.val + 1 ≤ s.upper.val by omega⟩
    have hin := contains_of_free hapart hfree hr (hs w hw)
      (show r.lower.val - 1 ≤ r.upper.val + 1 by omega) (Int.le_refl _)
    have hle : r.upper.val + 1 ≤ r.upper.val := (contains_iff.mp hin).2
    omega

/-- **Ranges apart are the runs of what they hold.** -/
theorem mem_iff_isRun (hcleared : ∀ r ∈ ranges, r.nullAllowed = false) :
    r ∈ ranges ↔ r.nullAllowed = false ∧ r.IsRun free := by
  constructor
  · intro hr
    refine ⟨hcleared r hr, fun v hv => (hfree v).mp ⟨r, hr, hv⟩, fun s hrs hs => ?_⟩
    have hlower := hrs r.lower r.contains_lower
    have hupper := hrs r.upper r.contains_upper
    obtain ⟨hl, hu⟩ := le_of_free hapart hfree hr hs r.contains_lower hlower
    exact ends_eq_of_le (contains_iff.mp hlower).1 hl hu (contains_iff.mp hupper).2
  · rintro ⟨hnull, hrun⟩
    -- some range has the least integer of `r`, and reaches as far as `r` does
    obtain ⟨s, hs, hsv⟩ := (hfree r.lower).mpr (hrun.within r.lower r.contains_lower)
    obtain ⟨hl, hu⟩ := le_of_free hapart hfree hs hrun.within hsv r.contains_lower
    have hsub : ∀ v, r.contains v = true → s.contains v = true := by
      intro v hv
      obtain ⟨hlv, hvu⟩ := contains_iff.mp hv
      exact contains_iff.mpr ⟨hl.trans hlv, hvu.trans hu⟩
    have hsfree : ∀ v, s.contains v = true → free v := fun v hv => (hfree v).mp ⟨s, hs, hv⟩
    have heq : s = r :=
      ext_ends (hrun.maximal s hsub hsfree) ((hcleared s hs).trans hnull.symm)
    exact heq ▸ hs

end Apart

end IntegerRange

/-! ### Ranges of a filter -/

/-- The ranges that a filter of integers is made of, in ascending order. -/
def Filter.integerRanges? : Filter → Option (List IntegerRange)
  | alwaysFalse => some []
  | isNull => some []
  | integerRange r => some [r.withNullAllowed false]
  | integerUnion u => some u.members.toList
  | integerSet s => some (s.members.toList.map .point)
  | _ => none

/-- A set of points is made of them. -/
theorem IntegerSet.map_point_members {ranges : List IntegerRange} {n : Bool} {s : IntegerSet}
    (h : make (ranges.map (·.lower)) n = .ok s) (hpoints : ∀ r ∈ ranges, r.isPoint = true)
    (hpair : ranges.Pairwise fun r t => r.isBelow t = true) :
    s.members.toList.map IntegerRange.point = ranges.map (·.withNullAllowed false) := by
  have hsorted : (ranges.map (·.lower)).SortedLT := by
    refine (List.pairwise_map.mpr (hpair.imp ?_)).sortedLT
    intro r t hrt
    have hlt := IntegerRange.isBelow_iff.mp hrt
    exact IntIn.lt_iff.mpr (Int.lt_of_le_of_lt r.lower_le_upper hlt)
  -- ascending lists with the same members are equal
  have hmembers : s.members.toList = ranges.map (·.lower) := by
    refine s.sortedLT_members.eq_of_mem_iff hsorted fun v => ?_
    rw [Array.mem_toList_iff, mem_members_of_make h]
  rw [hmembers, List.map_map]
  exact List.map_congr_left fun r hr => IntegerRange.point_lower (hpoints r hr)

end ColumnFilter
