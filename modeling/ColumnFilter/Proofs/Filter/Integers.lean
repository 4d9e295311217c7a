/-
Filters over integers hold what they are made of.

* `IntegerUnion.contains_eq_any`: the binary search of a union finds the range that holds a
  value, if there is one. The ranges ascend, so that of those that start at or below the value
  all but the last end below it.
* `IntegerSet.contains_iff`: the index of a set holds the members and nothing else. Distances
  from the least member are told apart by their 32 bits, as long as only values up to the
  greatest member are looked up.
* `IntegerUnion.contains_of_make` and `IntegerSet.make_eq_ok`: a union holds what the ranges hold
  that it is made of, and a set the values.
-/
import ColumnFilter.Filter.IntegerUnion
import ColumnFilter.Filter.IntegerSet
import ColumnFilter.Proofs.Order.Bisect
import ColumnFilter.Proofs.Order.Linear
import Mathlib.Data.List.Chain

namespace ColumnFilter

/-! ### Ranges -/

namespace IntegerRange

variable {r s : IntegerRange} {v : Bigint}

theorem contains_iff : r.contains v = true ↔ r.lower.val ≤ v.val ∧ v.val ≤ r.upper.val := by
  simp [contains]

theorem isBelow_iff : r.isBelow s = true ↔ r.upper.val < s.lower.val := by
  simp [isBelow]

theorem contains_of_isPoint (h : r.isPoint = true) : r.contains v = true ↔ v = r.lower := by
  have hu : r.lower = r.upper := beq_iff_eq.mp h
  rw [contains_iff, ← hu, IntIn.ext_iff, Int.le_antisymm_iff, and_comm]

theorem isPoint_iff : r.isPoint = true ↔ ∃ v, ∀ w, r.contains w = true ↔ w = v := by
  constructor
  · intro h
    exact ⟨r.lower, fun w => contains_of_isPoint h⟩
  · rintro ⟨v, hv⟩
    have hlower : r.lower = v :=
      (hv r.lower).mp (contains_iff.mpr ⟨Int.le_refl _, r.lower_le_upper⟩)
    have hupper : r.upper = v :=
      (hv r.upper).mp (contains_iff.mpr ⟨r.lower_le_upper, Int.le_refl _⟩)
    exact beq_iff_eq.mpr (hlower.trans hupper.symm)

theorem make_eq_ok {lower upper : Bigint} {n : Bool} :
    make lower upper n = .ok r ↔ r.lower = lower ∧ r.upper = upper ∧ r.nullAllowed = n := by
  rw [make, ofEnds?]
  constructor
  · intro h
    by_cases hle : lower.val ≤ upper.val
    · rw [dif_pos hle] at h
      cases h
      exact ⟨rfl, rfl, rfl⟩
    · rw [dif_neg hle] at h
      cases h
  · rintro ⟨rfl, rfl, rfl⟩
    rw [dif_pos r.lower_le_upper]

/-- A list without an overlap ascends. -/
theorem firstOverlap?_eq_none {ranges : List IntegerRange} :
    firstOverlap? ranges = none ↔ ranges.IsChain fun r s => r.isBelow s = true := by
  fun_induction firstOverlap? ranges with
  | case1 r s rest hrs ih => rw [ih, List.isChain_cons_cons, and_iff_right hrs]
  | case2 r s rest hrs => simp [List.isChain_cons_cons, hrs]
  | case3 ranges h =>
    rcases ranges with - | ⟨r, - | ⟨s, rest⟩⟩
    · simp
    · simp
    · exact absurd rfl (h r s rest)

/-- Being below a range passes over the ranges in between, since none is empty. -/
theorem pairwise_of_isChain {ranges : List IntegerRange}
    (h : ranges.IsChain fun r s => r.isBelow s = true) :
    ranges.Pairwise fun r s => r.isBelow s = true := by
  have : IsTrans IntegerRange fun r s => r.isBelow s = true := by
    -- `s` ends no lower than it starts
    refine ⟨fun r s t hrs hst => ?_⟩
    rw [isBelow_iff] at *
    have := s.lower_le_upper
    omega
  exact h.pairwise

end IntegerRange

/-! ### Unions -/

namespace IntegerUnion

theorem contains_eq_any (u : IntegerUnion) (v : Bigint) :
    u.contains v = u.members.toList.any (·.contains v) := by
  have hpairwise : u.members.toList.Pairwise fun r s => r.isBelow s = true :=
    IntegerRange.pairwise_of_isChain (IntegerRange.firstOverlap?_eq_none.mp u.ordered)
  refine Bisect.any_last? (hpairwise.imp fun {r s} hrs => ?_) (fun r _ hr => ?_)
    (hpairwise.imp fun {r s} hrs => ?_)
  · rw [IntegerRange.isBelow_iff] at hrs
    have := r.lower_le_upper
    simp only [decide_eq_true_iff]
    omega
  · exact decide_eq_true (IntegerRange.contains_iff.mp hr).1
  · -- a range below one that starts at or below the value does not reach it
    rw [IntegerRange.isBelow_iff] at hrs
    simp only [decide_eq_true_iff, IntegerRange.contains_iff]
    omega

variable {ranges : List IntegerRange} {n : Bool} {u : IntegerUnion}

/-- What a union is made of: the given ranges with their flags cleared, and its own flag. -/
theorem of_make (h : make ranges n = .ok u) :
    u.members.toList = ranges.map (·.withNullAllowed false) ∧ u.nullAllowed = n := by
  rw [make] at h
  split at h
  · split at h <;> cases h
    exact ⟨rfl, rfl⟩
  · cases h

/-- A union holds what the given ranges hold, since their flags have no part in it. -/
theorem contains_of_make (h : make ranges n = .ok u) (v : Bigint) :
    u.contains v = ranges.any (·.contains v) := by
  rw [contains_eq_any, (of_make h).1, List.any_map]
  rfl

theorem exists_make_of_firstOverlap? (hsize : 2 ≤ ranges.length)
    (h : IntegerRange.firstOverlap? ranges = none) : ∃ u, make ranges n = .ok u := by
  rw [make, dif_pos hsize]
  split
  · exact ⟨_, rfl⟩
  · rename_i hsome
    rw [h] at hsome
    cases hsome

theorem make_eq_error_of_firstOverlap? {earlier later : IntegerRange} (hsize : 2 ≤ ranges.length)
    (h : IntegerRange.firstOverlap? ranges = some (earlier, later)) :
    make ranges n = .error (.integerRangeOrder earlier.ends later.ends) := by
  rw [make, dif_pos hsize]
  split <;> rename_i h' <;> rw [h] at h' <;> cases h'
  rfl

theorem exists_make (hsize : 2 ≤ ranges.length)
    (h : ranges.Pairwise fun r s => r.isBelow s = true) : ∃ u, make ranges n = .ok u :=
  exists_make_of_firstOverlap? hsize (IntegerRange.firstOverlap?_eq_none.mpr h.isChain)

end IntegerUnion

/-! ### Sets -/

namespace IntegerIndex

variable {least greatest v w : Bigint}

/-- Below `2 ^ 32` distances are told apart by their words. -/
theorem offset_inj (hv : least.val ≤ v.val) (hv' : v.val - least.val < 4294967296)
    (hw : least.val ≤ w.val) (hw' : w.val - least.val < 4294967296) :
    offset least v = offset least w ↔ v = w := by
  constructor
  · intro h
    have hnat := congrArg UInt32.toNat h
    rw [offset, offset, UInt32.toNat_ofNat_of_lt' (by simp [UInt32.size]; omega),
      UInt32.toNat_ofNat_of_lt' (by simp [UInt32.size]; omega)] at hnat
    exact IntIn.ext (by omega)
  · rintro rfl
    rfl

theorem contains_build {members : List Bigint}
    (hm : ∀ w ∈ members, least.val ≤ w.val ∧ w.val ≤ greatest.val)
    (hv : least.val ≤ v.val ∧ v.val ≤ greatest.val) :
    (build least greatest members).contains least v = members.contains v := by
  rw [build]
  split
  · rename_i hspan
    rw [contains, Std.HashSet.contains_ofList, Bool.eq_iff_iff, List.contains_iff_mem,
      List.contains_iff_mem, List.mem_map]
    constructor
    · -- both are distances within the span, so the same word is the same value
      rintro ⟨w, hw, hwv⟩
      obtain ⟨hlw, hwg⟩ := hm w hw
      have heq := (offset_inj hlw (by omega) hv.1 (by omega)).mp hwv
      exact heq ▸ hw
    · exact fun h => ⟨v, h, rfl⟩
  · exact Std.HashSet.contains_ofList

end IntegerIndex

namespace IntegerSet

variable {s : IntegerSet} {v : Bigint} {values : List Bigint} {n : Bool}

theorem least_le_of_mem (h : v ∈ s.members) : s.least.val ≤ v.val := by
  obtain ⟨i, hi, rfl⟩ := Array.getElem_of_mem h
  rcases Nat.eq_zero_or_pos i with rfl | hpos
  · exact Int.le_refl _
  · have hlt := List.pairwise_iff_getElem.mp s.ordered 0 i s.size_pos hi hpos
    exact Int.le_of_lt (IntIn.compare_eq_lt.mp hlt)

theorem le_greatest_of_mem (h : v ∈ s.members) : v.val ≤ s.greatest.val := by
  obtain ⟨i, hi, rfl⟩ := Array.getElem_of_mem h
  have hsize := s.size_pos
  have hback : s.greatest = s.members[s.members.size - 1] := rfl
  rw [hback]
  rcases Nat.lt_or_ge i (s.members.size - 1) with hlast | hlast
  · have hlt := List.pairwise_iff_getElem.mp s.ordered i (s.members.size - 1) hi
      (show s.members.size - 1 < s.members.size by omega) hlast
    exact Int.le_of_lt (IntIn.compare_eq_lt.mp hlt)
  · obtain rfl : i = s.members.size - 1 := by omega
    exact Int.le_refl _

theorem contains_iff : s.contains v = true ↔ v ∈ s.members := by
  have hm : ∀ w ∈ s.members.toList, s.least.val ≤ w.val ∧ w.val ≤ s.greatest.val := fun w hw =>
    ⟨least_le_of_mem (Array.mem_toList_iff.mp hw), le_greatest_of_mem (Array.mem_toList_iff.mp hw)⟩
  -- offsets are for values between the ends, which is looked at first
  have hindex : s.index = .build s.least s.greatest s.members.toList := s.index_eq
  simp only [contains, Bool.and_eq_true, decide_eq_true_iff]
  constructor
  · rintro ⟨hv, h⟩
    rw [hindex, IntegerIndex.contains_build hm hv, List.contains_iff_mem] at h
    exact Array.mem_toList_iff.mp h
  · intro h
    have hv := hm v (Array.mem_toList_iff.mpr h)
    refine ⟨hv, ?_⟩
    rw [hindex, IntegerIndex.contains_build hm hv, List.contains_iff_mem]
    exact Array.mem_toList_iff.mpr h

theorem make_eq_ok (h : make values n = .ok s) : s.contains v = true ↔ v ∈ values := by
  rw [make] at h
  split at h <;> cases h
  rw [contains_iff, List.mem_toArray, mem_ascending]

theorem nullAllowed_of_make (h : make values n = .ok s) : s.nullAllowed = n := by
  rw [make] at h
  split at h <;> cases h
  rfl

theorem exists_make (h : values ≠ []) : ∃ s, make values n = .ok s := by
  have hpos := List.length_pos_of_ne_nil (ascending_ne_nil h)
  rw [make]
  exact ⟨_, dif_pos hpos⟩

end IntegerSet

end ColumnFilter
