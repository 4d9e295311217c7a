/-
The ranges that an integer column compiles to.

* `Compile.exists_integerRanges`: the filter of an integer column is made of the ranges that its
  intervals convert to, whichever kind it is of;
* `Compile.exists_reads_of_integerRangesFrom`: these are the ranges of the converted intervals that
  hold an integer, in their order;
* `Compile.exists_compile_ranges` puts both together for lists in normal form.
-/
import ColumnFilter.Proofs.Compile.Integers
import ColumnFilter.Proofs.Filter.Runs

namespace ColumnFilter

namespace Compile

variable {type : SqlType} {options : Options} {n : Bool} {index : Nat}
  {previous : Option IntegerRange} {list : List (Interval Scalar)} {converted : List (Interval Bigint)}
  {ranges : List IntegerRange}

/-- The filter of an integer column is made of the ranges of its intervals. -/
theorem exists_integerRanges {f : Filter} (h : integerFilter options type list n = .ok f) :
    ∃ ranges, integerRangesFrom type n 0 none list = .ok ranges ∧
      f.integerRanges? = some (ranges.map (·.withNullAllowed false)) := by
  obtain ⟨ranges, hranges, hf⟩ := integerFilter_eq_ok.mp h
  refine ⟨ranges, hranges, ?_⟩
  cases hf with
  | nothing => cases n <;> rfl
  | range r => rfl
  | set _ hpoints hset =>
    -- a set sorts its values, and these are in order already
    have hpair := IntegerRange.pairwise_of_isChain (isChain_integerRangesFrom hranges)
    exact congrArg some (IntegerSet.map_point_members hset hpoints.2 hpair)
  | union _ _ hu => exact congrArg some (IntegerUnion.of_make hu).1

/-- The range of the integers of an interval, if it holds any. -/
def range? (nullAllowed : Bool) (j : Interval Bigint) : Option IntegerRange :=
  (ends? j).bind fun ends => IntegerRange.ofEnds? ends.1 ends.2 nullAllowed

theorem range?_eq_some {j : Interval Bigint} {r : IntegerRange} :
    range? n j = some r ↔ ends? j = some (r.lower, r.upper) ∧ r.nullAllowed = n := by
  rw [range?, Option.bind_eq_some_iff]
  constructor
  · rintro ⟨⟨least, greatest⟩, hends, h⟩
    obtain ⟨hle, hr⟩ := Option.dite_none_right_eq_some.mp h
    cases hr
    exact ⟨hends, rfl⟩
  · rintro ⟨hends, rfl⟩
    exact ⟨_, hends, dif_pos r.lower_le_upper⟩

theorem range?_eq_none {j : Interval Bigint} : range? n j = none ↔ ends? j = none := by
  cases hends : ends? j with
  | none => simp [range?, hends]
  | some ends =>
    obtain ⟨least, greatest⟩ := ends
    have hle := (ends?_eq_some.mp hends).2.2
    have hrange : range? n j = some ⟨least, greatest, n, hle⟩ := range?_eq_some.mpr ⟨hends, rfl⟩
    simp [hrange]

/-- The range of an interval with another null flag. -/
theorem map_withNullAllowed_range? {j : Interval Bigint} {m : Bool} :
    (range? n j).map (·.withNullAllowed m) = range? m j := by
  cases hrange : range? n j with
  | none => rw [Option.map_none, eq_comm, range?_eq_none, ← range?_eq_none, hrange]
  | some r =>
    rw [Option.map_some, eq_comm, range?_eq_some]
    exact ⟨(range?_eq_some.mp hrange).1, rfl⟩

theorem contains_iff_of_range? {j : Interval Bigint} {v : Bigint} :
    j.contains v = true ↔ ∃ r, range? n j = some r ∧ r.contains v = true := by
  rw [contains_iff_of_ends?]
  constructor
  · rintro ⟨⟨least, greatest⟩, hends, hv⟩
    have hle := (ends?_eq_some.mp hends).2.2
    exact ⟨⟨least, greatest, n, hle⟩, range?_eq_some.mpr ⟨hends, rfl⟩,
      IntegerRange.contains_iff.mpr hv⟩
  · rintro ⟨r, hr, hv⟩
    exact ⟨_, (range?_eq_some.mp hr).1, IntegerRange.contains_iff.mp hv⟩

/-- The ranges are those of the converted intervals that hold an integer. -/
theorem exists_reads_of_integerRangesFrom
    (h : integerRangesFrom type n index previous list = .ok ranges) :
    ∃ converted, List.Forall₂ (Interval.Reads (integer? type)) list converted ∧
      ranges = converted.filterMap (range? n) := by
  -- along the list, one step of the compilation at a time
  induction list generalizing index previous ranges with
  | nil =>
    cases h
    exact ⟨[], .nil, rfl⟩
  | cons i rest ih =>
    obtain ⟨j, hj, ⟨hends, hrest⟩ | ⟨r, rs, hends, hnull, -, hrest, rfl⟩⟩ :=
      integerRangesFrom_cons_eq_ok.mp h
    · obtain ⟨converted, hreads, rfl⟩ := ih hrest
      have hrange : range? n j = none := range?_eq_none.mpr hends
      exact ⟨j :: converted, .cons hj hreads, (List.filterMap_cons_none hrange).symm⟩
    · obtain ⟨converted, hreads, rfl⟩ := ih hrest
      have hrange : range? n j = some r := range?_eq_some.mpr ⟨hends, hnull⟩
      exact ⟨j :: converted, .cons hj hreads, (List.filterMap_cons_some hrange).symm⟩

/-- Ranges of intervals hold what the intervals hold. -/
theorem exists_contains_iff {v : Bigint} :
    (∃ r ∈ converted.filterMap (range? n), r.contains v = true) ↔
      CoveredBy converted (.before v) := by
  have hcontains (j : Interval Bigint) :
      j.Covers (.before v) ↔ ∃ r, range? n j = some r ∧ r.contains v = true :=
    Interval.contains_iff.symm.trans contains_iff_of_range?
  simp only [CoveredBy, List.mem_filterMap, hcontains]
  constructor
  · rintro ⟨r, ⟨j, hj, hr⟩, hv⟩
    exact ⟨j, hj, r, hr, hv⟩
  · rintro ⟨j, hj, r, hr, hv⟩
    exact ⟨r, ⟨j, hj, hr⟩, hv⟩

/-- A list in normal form whose bounds are accepted and of one kind compiles, for an integer column,
to the ranges of its intervals. -/
theorem exists_compile_ranges (htype : type.typeClass = .integer) (hproper : type.IsProper)
    (hn : (IntervalSet.intervals list).IsNormal)
    (haccepts : ∀ i ∈ list, ∀ a ∈ i.endValues, type.accepts a = true) {kind : ScalarKind}
    (hkind : ∀ i ∈ list, ∀ a ∈ i.endValues, a.kind = kind) (nullAllowed : Bool) :
    ∃ f converted,
      (Domain.mk (.intervals list) nullAllowed).compile options type = .ok f ∧
      List.Forall₂ (Interval.Reads (integer? type)) list converted ∧ Separated converted ∧
      f.integerRanges? = some (converted.filterMap (range? false)) := by
  have hlist : ∃ f, listFilter options type list nullAllowed = .ok f := by
    rw [listFilter_integer htype]
    exact exists_integerFilter htype hn.2.2 haccepts ⟨kind, hkind⟩
  obtain ⟨f, hf, hlist⟩ := exists_compile_intervals hproper hn haccepts hlist
  rw [listFilter_integer htype] at hlist
  obtain ⟨ranges, hranges, hintegers⟩ := exists_integerRanges hlist
  obtain ⟨converted, hreads, rfl⟩ := exists_reads_of_integerRangesFrom hranges
  have hsep : Separated converted := .of_reads (integer?_keepsOrder kind) hkind hreads hn.2.2
  refine ⟨f, converted, hf, hreads, hsep, hintegers.trans (congrArg some ?_)⟩
  -- the ranges were made with the flag of the domain
  rw [List.map_filterMap]
  exact List.filterMap_congr fun j _ => map_withNullAllowed_range?

end Compile

end ColumnFilter
