/-
The values at the ends of interval sets.

Normalization drops, sorts and merges intervals, an intersection picks ends of both sides, and a
complement flips them. None of them makes up a value: what stands at an end of the result stood at
an end before (`IntervalSet.forall_endValues_ofIntervals`, `IntervalSet.forall_endValues_union`,
`IntervalSet.forall_endValues_intersect`, `IntervalSet.forall_endValues_complement`).
-/
import ColumnFilter.Proofs.Interval.Reading

namespace ColumnFilter.IntervalSet

variable {α : Type} {P : α → Prop} {list rest l r : List (Interval α)}

/-! ### Ends -/

theorem forall_value?_unbounded : ∀ a ∈ (Endpoint.unbounded : Endpoint α).value?, P a :=
  fun _ ha => nomatch ha

/-- The values at the ends of a gap are those at the ends that it lies between. -/
theorem forall_endValues_gap {last lower : Endpoint α} (hlast : ∀ a ∈ last.value?, P a)
    (hlower : ∀ a ∈ lower.value?, P a) :
    ∀ a ∈ Interval.endValues ⟨last.flip, lower.flip⟩, P a := by
  rw [Interval.forall_mem_endValues, Endpoint.value?_flip, Endpoint.value?_flip]
  exact ⟨hlast, hlower⟩

/-- The greater and the lesser of two ends are one of the two. -/
theorem forall_value?_ite {c : Prop} [Decidable c] {a b : Endpoint α} (ha : ∀ x ∈ a.value?, P x)
    (hb : ∀ x ∈ b.value?, P x) : ∀ x ∈ (if c then a else b).value?, P x := by
  split
  · exact ha
  · exact hb

variable [Ord α]

/-! ### Normalization -/

theorem forall_endValues_mergeInto {current : Interval α} (hcurrent : ∀ a ∈ current.endValues, P a)
    (hrest : ∀ i ∈ rest, ∀ a ∈ i.endValues, P a) :
    ∀ i ∈ mergeInto current rest, ∀ a ∈ i.endValues, P a := by
  induction rest generalizing current with
  | nil => simpa [mergeInto] using hcurrent
  | cons i rest ih =>
    obtain ⟨hi, hrest⟩ := List.forall_mem_cons.mp hrest
    rw [mergeInto]
    split
    · obtain ⟨hlower, hupper⟩ := Interval.forall_mem_endValues.mp hcurrent
      have hmax : ∀ a ∈ (current.upper.maxUpper i.upper).value?, P a :=
        forall_value?_ite hupper (Interval.forall_mem_endValues.mp hi).2
      exact ih (Interval.forall_mem_endValues.mpr ⟨hlower, hmax⟩) hrest
    · exact List.forall_mem_cons.mpr ⟨hcurrent, ih hi hrest⟩

theorem forall_endValues_ofIntervals (h : ∀ i ∈ list, ∀ a ∈ i.endValues, P a) :
    ∀ a ∈ (ofIntervals list).endValues, P a := by
  rw [forall_mem_endValues, ofIntervals, toList_ofMerged]
  have hsorted : ∀ i ∈ sortByLower (list.filter (!·.isEmpty)), ∀ a ∈ i.endValues, P a := by
    intro i hi
    have hi := List.mem_mergeSort.mp hi
    exact h i (List.mem_filter.mp hi).1
  cases hlist : sortByLower (list.filter (!·.isEmpty)) with
  | nil => simp [mergeSorted]
  | cons current rest =>
    rw [hlist] at hsorted
    obtain ⟨hcurrent, hrest⟩ := List.forall_mem_cons.mp hsorted
    exact forall_endValues_mergeInto hcurrent hrest

/-! ### Union and intersection -/

theorem forall_endValues_union {s t : IntervalSet α} (hs : ∀ a ∈ s.endValues, P a)
    (ht : ∀ a ∈ t.endValues, P a) : ∀ a ∈ (s.union t).endValues, P a := by
  cases s with
  | all => exact hs
  | none => cases t <;> exact ht
  | intervals l =>
    cases t with
    | all => exact ht
    | none => exact hs
    | intervals r =>
      rw [forall_mem_endValues] at hs ht
      exact forall_endValues_ofIntervals (List.forall_mem_append.mpr ⟨hs, ht⟩)

theorem forall_endValues_pieces (hl : ∀ i ∈ l, ∀ a ∈ i.endValues, P a)
    (hr : ∀ i ∈ r, ∀ a ∈ i.endValues, P a) : ∀ i ∈ pieces l r, ∀ a ∈ i.endValues, P a := by
  intro k hk
  obtain ⟨i, hi, hk⟩ := List.mem_flatMap.mp hk
  obtain ⟨j, hj, hmeet⟩ := List.mem_filterMap.mp hk
  obtain ⟨hilower, hiupper⟩ := Interval.forall_mem_endValues.mp (hl i hi)
  obtain ⟨hjlower, hjupper⟩ := Interval.forall_mem_endValues.mp (hr j hj)
  simp only [Interval.meet?] at hmeet
  split at hmeet
  · cases hmeet
  · cases hmeet
    exact Interval.forall_mem_endValues.mpr
      ⟨forall_value?_ite hilower hjlower, forall_value?_ite hiupper hjupper⟩

theorem forall_endValues_intersect {s t : IntervalSet α} (hs : ∀ a ∈ s.endValues, P a)
    (ht : ∀ a ∈ t.endValues, P a) : ∀ a ∈ (s.intersect t).endValues, P a := by
  cases s with
  | none => exact hs
  | all => cases t <;> exact ht
  | intervals l =>
    cases t with
    | none => exact ht
    | all => exact hs
    | intervals r =>
      rw [forall_mem_endValues] at hs ht
      exact forall_endValues_ofIntervals (forall_endValues_pieces hs ht)

/-! ### Complement -/

theorem forall_endValues_gapsAfter {last : Endpoint α} (hlast : ∀ a ∈ last.value?, P a)
    (hrest : ∀ i ∈ rest, ∀ a ∈ i.endValues, P a) :
    ∀ i ∈ gapsAfter last rest, ∀ a ∈ i.endValues, P a := by
  -- each gap starts at the end that was left last
  induction rest generalizing last with
  | nil =>
    rw [gapsAfter]
    split
    · simp
    · exact List.forall_mem_singleton.mpr (forall_endValues_gap hlast forall_value?_unbounded)
  | cons i rest ih =>
    obtain ⟨hi, hrest⟩ := List.forall_mem_cons.mp hrest
    obtain ⟨hlower, hupper⟩ := Interval.forall_mem_endValues.mp hi
    rw [gapsAfter]
    split
    · exact ih hupper hrest
    · exact List.forall_mem_cons.mpr ⟨forall_endValues_gap hlast hlower, ih hupper hrest⟩

theorem forall_endValues_gaps (h : ∀ i ∈ list, ∀ a ∈ i.endValues, P a) :
    ∀ i ∈ gaps list, ∀ a ∈ i.endValues, P a := by
  cases list with
  | nil => simp [gaps, Interval.all, Interval.endValues, Endpoint.value?]
  | cons i rest =>
    obtain ⟨hi, hrest⟩ := List.forall_mem_cons.mp h
    obtain ⟨hlower, hupper⟩ := Interval.forall_mem_endValues.mp hi
    have hafter := forall_endValues_gapsAfter hupper hrest
    rw [gaps]
    split
    · exact hafter
    · exact List.forall_mem_cons.mpr ⟨forall_endValues_gap forall_value?_unbounded hlower, hafter⟩

theorem forall_endValues_complement {s : IntervalSet α} (h : ∀ a ∈ s.endValues, P a) :
    ∀ a ∈ s.complement.endValues, P a := by
  cases s with
  | all => simp [complement, endValues, toList]
  | none => simp [complement, endValues, toList, Interval.all, Interval.endValues, Endpoint.value?]
  | intervals list =>
    exact forall_endValues_ofIntervals (forall_endValues_gaps (forall_mem_endValues.mp h))

end ColumnFilter.IntervalSet
