/-
Excluded integers leave maximal runs.

* `Domain.compile_exclusion`: the filter compiled from the complement of a list of integers is made
  of the maximal ranges of integers without a listed one, in ascending order, and no two of them
  are adjacent.

The intervals of the complement have gaps between them, and what lies in a gap is covered by a
listed integer alone (`Compile.coveredBy_complement`). So between the integers of two intervals
there is one that both leave out (`Compile.pairwise_isApart`), and ranges apart like this are the
runs of what they hold.
-/
import ColumnFilter.Proofs.Compile.NullFlag
import ColumnFilter.Proofs.Compile.Ranges
import ColumnFilter.Proofs.Interval.Ends
import ColumnFilter.Proofs.Interval.Gaps

namespace ColumnFilter

namespace Compile

variable {excluded : List Bigint} {list : List (Interval Scalar)}
  {converted : List (Interval Bigint)}

theorem strictMono_int64 : StrictMono Scalar.int64 := by
  intro a b hab
  rw [← compare_lt_iff_lt, Scalar.compare_int64]
  exact compare_lt_iff_lt.mpr hab

theorem eq_int64_of_integer? {a : Scalar} {n : Bigint} (h : integer? .bigint a = some n) :
    a = .int64 n := by
  cases a <;> cases h
  rfl

/-- Intervals that leave out some integers alone have one of these in every gap. -/
theorem pairwise_isApart (hsep : Separated converted)
    (hcover : ∀ p < .top, ¬ CoveredBy (excluded.map .point) p → CoveredBy converted p) :
    (converted.filterMap (range? false)).Pairwise IntegerRange.IsApart := by
  refine List.pairwise_filterMap.mpr (hsep.pairwise.imp_of_mem ?_)
  intro i j hi hj hij r hr s hs
  -- the cut where the gap starts is not covered, so an integer is left out there
  have hgap : CoveredBy (excluded.map .point) i.upperCut := by
    by_contra hnone
    exact hsep.not_coveredBy_upperCut hi (hcover _ (hij.trans_le (Cut.le_top _)) hnone)
  obtain ⟨_, hx, hxl, hxu⟩ := hgap
  obtain ⟨x, -, rfl⟩ := List.mem_map.mp hx
  have hix : i.upperCut ≤ .before x := by
    by_contra hlt
    exact not_lt_of_ge (Cut.before_lt_iff.mp (not_le.mp hlt)) hxu
  have hxj : .after x ≤ j.lowerCut := Cut.before_lt_iff.mp (lt_of_le_of_lt hxl hij)
  have hr' : i.Covers (.before r.upper) :=
    Interval.contains_iff.mp (contains_iff_of_range?.mpr ⟨r, hr, r.contains_upper⟩)
  have hs' : j.Covers (.before s.lower) :=
    Interval.contains_iff.mp (contains_iff_of_range?.mpr ⟨s, hs, s.contains_lower⟩)
  have hrx : r.upper.val < x.val :=
    IntIn.lt_iff.mp (Cut.before_lt_before.mp (hr'.2.trans_le hix))
  have hxs : x.val < s.lower.val := IntIn.lt_iff.mp (Cut.after_le_before.mp (hxj.trans hs'.1))
  show r.upper.val + 1 < s.lower.val
  omega

/-- The intervals of the complement of some integers cover what these do not. -/
theorem coveredBy_complement
    (hlist : (IntervalSet.ofValues (excluded.map .int64)).complement = .intervals list)
    (h : List.Forall₂ (Interval.Reads (integer? .bigint)) list converted) {p : Cut Bigint}
    (hp : p < .top) : CoveredBy converted p ↔ ¬ CoveredBy (excluded.map .point) p := by
  have hpoints : List.Forall₂ (Interval.Reads (integer? .bigint))
      ((excluded.map Scalar.int64).map Interval.point) (excluded.map Interval.point) := by
    rw [List.map_map, List.forall₂_map_left_iff, List.forall₂_map_right_iff, List.forall₂_same]
    exact fun x _ => ⟨.inclusive rfl, .inclusive rfl⟩
  have hread (a : Scalar) (n : Bigint) (ha : integer? .bigint a = some n) : a = .int64 n :=
    eq_int64_of_integer? ha
  have htop : p.map Scalar.int64 < .top :=
    (Cut.map_lt_map_iff strictMono_int64 (q := .top)).mpr hp
  have hcomplement : (IntervalSet.intervals list).Covers (p.map .int64) ↔
      p.map Scalar.int64 < .top ∧
        ¬ CoveredBy ((excluded.map Scalar.int64).map Interval.point) (p.map .int64) := by
    rw [← hlist, IntervalSet.covers_complement (IntervalSet.isNormal_ofValues _),
      IntervalSet.covers_ofValues]
  -- the complement is one of literals, so both sides are read as literals again
  rw [coveredBy_of_reads strictMono_int64 hread h,
    coveredBy_of_reads strictMono_int64 hread hpoints]
  exact hcomplement.trans (and_iff_right htop)

theorem kind_complement_ofValues (excluded : List Bigint) :
    ∀ a ∈ (IntervalSet.ofValues (excluded.map Scalar.int64)).complement.endValues,
      a.kind = .int64 := by
  refine IntervalSet.forall_endValues_complement (IntervalSet.forall_endValues_ofIntervals ?_)
  intro i hi a ha
  obtain ⟨_, hx, rfl⟩ := List.mem_map.mp hi
  obtain ⟨x, -, rfl⟩ := List.mem_map.mp hx
  rcases Interval.mem_endValues.mp ha with h | h <;> cases h <;> rfl

end Compile

open Compile in
/-- **The filter compiled from the complement of some integers is made of the maximal ranges of
integers without them**, in ascending order, and no two of these are adjacent. The flag for NULL is
that of the filter, and its ranges are those with their flags cleared. -/
theorem Domain.compile_exclusion (options : Options) (excluded : List Bigint)
    (hne : excluded ≠ []) (nullAllowed : Bool) :
    ∃ f ranges,
      (Domain.mk (IntervalSet.ofValues (excluded.map .int64)).complement nullAllowed).compile
        options .bigint = .ok f ∧
      f.nullAllowed = nullAllowed ∧ f.integerRanges? = some ranges ∧
      (∀ r, r ∈ ranges ↔ r.nullAllowed = false ∧ r.IsRun (· ∉ excluded)) ∧
      ranges.Pairwise fun r s => r.upper.val + 1 < s.lower.val := by
  obtain ⟨list, hlist⟩ := IntervalSet.exists_complement_ofValues
    (show excluded.map Scalar.int64 ≠ [] by simpa using hne)
  have hnormal : (IntervalSet.intervals list).IsNormal := hlist ▸ IntervalSet.isNormal_complement _
  have hkind : ∀ i ∈ list, ∀ a ∈ i.endValues, a.kind = .int64 := by
    have hends := kind_complement_ofValues excluded
    rw [hlist, IntervalSet.forall_mem_endValues] at hends
    exact hends
  have haccepts : ∀ i ∈ list, ∀ a ∈ i.endValues, SqlType.bigint.accepts a = true := by
    intro i hi a ha
    have ha := hkind i hi a ha
    cases a <;> cases ha
    rfl
  have hclass : SqlType.bigint.typeClass = .integer := rfl
  obtain ⟨f, converted, hcompile, hreads, hsep, hranges⟩ :=
    exists_compile_ranges hclass trivial hnormal haccepts hkind nullAllowed
  -- the converted intervals cover what the excluded integers leave
  have hcover : ∀ p < .top, CoveredBy converted p ↔ ¬ CoveredBy (excluded.map .point) p :=
    fun p hp => coveredBy_complement hlist hreads hp
  have hapart := pairwise_isApart hsep fun p hp => (hcover p hp).mpr
  have hcleared : ∀ r ∈ converted.filterMap (range? false), r.nullAllowed = false := by
    intro r hr
    obtain ⟨j, -, hj⟩ := List.mem_filterMap.mp hr
    exact (range?_eq_some.mp hj).2
  have hfree (v : Bigint) :
      (∃ r ∈ converted.filterMap (range? false), r.contains v = true) ↔ v ∉ excluded := by
    rw [exists_contains_iff, hcover _ (by simp), IntervalSet.coveredBy_points]
  exact ⟨f, converted.filterMap (range? false), hlist ▸ hcompile, nullAllowed_of_compile hcompile,
    hranges, fun r => IntegerRange.mem_iff_isRun hapart hfree hcleared, hapart⟩

/-- Two neighbours and the least integer: two gaps hold no integer, and two runs are left. -/
theorem Domain.compile_exclusion_neighbours :
    ([⟨1, by decide, by decide⟩, .least, ⟨0, by decide, by decide⟩] : List Bigint) ≠ [] ∧
      ∃ f, (Domain.mk (IntervalSet.ofValues ([⟨1, by decide, by decide⟩, .least,
          ⟨0, by decide, by decide⟩].map .int64)).complement true).compile .standard .bigint
            = .ok f ∧
        f.nullAllowed = true ∧
        f.integerRanges? = some
          [⟨⟨-9223372036854775807, by decide, by decide⟩, ⟨-1, by decide, by decide⟩, false,
            by decide⟩, ⟨⟨2, by decide, by decide⟩, .greatest, false, by decide⟩] ∧
        IntegerRange.IsRun
          (· ∉ [⟨1, by decide, by decide⟩, .least, ⟨0, by decide, by decide⟩])
          ⟨⟨2, by decide, by decide⟩, .greatest, false, by decide⟩ := by
  let one : Bigint := ⟨1, by decide, by decide⟩
  let zero : Bigint := ⟨0, by decide, by decide⟩
  obtain ⟨f, ranges, hf, hnull, hranges, hruns, -⟩ :=
    Domain.compile_exclusion .standard [one, .least, zero] (by decide) true
  have hne : [Scalar.int64 .least, .int64 zero, .int64 one] ≠ [] := by decide
  have hsorted : [Scalar.int64 .least, .int64 zero, .int64 one].SortedLT :=
    List.Pairwise.sortedLT (by decide)
  -- normalization sorts, and does not evaluate here; a sorted list of points replaces it
  have hvalues : IntervalSet.ofValues ([one, .least, zero].map Scalar.int64)
      = .intervals ([.int64 .least, .int64 zero, .int64 one].map .point) := by
    refine IntervalSet.ofValues_eq_points hne hsorted fun v => ?_
    simp only [List.map_cons, List.map_nil, List.mem_cons, List.not_mem_nil, or_false]
    tauto
  have hgaps : (IntervalSet.ofValues ([one, .least, zero].map Scalar.int64)).complement
      = .intervals (IntervalSet.gaps ([.int64 .least, .int64 zero, .int64 one].map .point)) := by
    rw [hvalues, IntervalSet.complement_eq_gaps (IntervalSet.isNormal_points hne hsorted)]
  have hkept : f.integerRanges? = some
      [⟨⟨-9223372036854775807, by decide, by decide⟩, ⟨-1, by decide, by decide⟩, false,
        by decide⟩, ⟨⟨2, by decide, by decide⟩, .greatest, false, by decide⟩] := by
    rw [hgaps] at hf
    cases hf
    rfl
  have heq := Option.some.inj (hranges.symm.trans hkept)
  refine ⟨by decide, f, hf, hnull, hkept, ((hruns _).mp ?_).2⟩
  rw [heq]
  exact List.mem_cons_of_mem _ List.mem_cons_self

end ColumnFilter
