/-
The gaps of a set in normal form.

The complement of a list of intervals is put together from what lies below the first, between
neighbours and above the last, and then normalized. Of a list in normal form

* these gaps are in normal form already (`IntervalSet.separated_gaps`), since neighbours do not
  touch, and a flipped end makes the same cut from the other side;
* so the complement is the list of the gaps, none dropped and none merged
  (`IntervalSet.complement_eq_gaps`).

A list of values is a list of points in ascending order, and its complement one open interval more
(`IntervalSet.ofValues_eq_points`, `IntervalSet.gaps_points`).
-/
import ColumnFilter.Proofs.Interval.Boolean
import ColumnFilter.Proofs.Order.Linear
import Mathlib.Data.Finset.Sort

namespace ColumnFilter

variable {α : Type}

/-! ### Gaps of neighbours -/

namespace Interval

/-- What lies between two intervals. -/
def gapTo (i j : Interval α) : Interval α := ⟨i.upper.flip, j.lower.flip⟩

/-- What lies below an interval, if it has a lower end. -/
def gapBelow? (i : Interval α) : Option (Interval α) :=
  if i.lower.isUnbounded then none else some ⟨.unbounded, i.lower.flip⟩

/-- What lies above an interval, if it has an upper end. -/
def gapAbove? (i : Interval α) : Option (Interval α) :=
  if i.upper.isUnbounded then none else some ⟨i.upper.flip, .unbounded⟩

theorem length_gapBelow? (i : Interval α) :
    i.gapBelow?.toList.length + i.lower.isUnbounded.toNat = 1 := by
  rw [gapBelow?]
  cases i.lower.isUnbounded <;> rfl

theorem length_gapAbove? (i : Interval α) :
    i.gapAbove?.toList.length + i.upper.isUnbounded.toNat = 1 := by
  rw [gapAbove?]
  cases i.upper.isUnbounded <;> rfl

end Interval

namespace IntervalSet

variable [LinearOrder α] {i : Interval α} {list rest : List (Interval α)}

/-! ### The gaps of a list -/

/-- The gaps after an interval: one before each later one, and one after the last. -/
theorem gapsAfter_eq (h : Separated (i :: rest)) :
    gapsAfter i.upper rest = (i :: rest).zipWith Interval.gapTo rest ++
      ((i :: rest).getLast (List.cons_ne_nil i rest)).gapAbove?.toList := by
  induction rest generalizing i with
  | nil =>
    show (if i.upper.isUnbounded then [] else [_]) = i.gapAbove?.toList
    rw [Interval.gapAbove?]
    cases i.upper.isUnbounded <;> rfl
  | cons j rest ih =>
    have hij := (List.pairwise_cons.mp h.pairwise).1 j List.mem_cons_self
    rw [gapsAfter_cons hij, ih h.tail, List.zipWith_cons_cons, List.cons_append,
      List.getLast_cons (List.cons_ne_nil j rest)]
    rfl

theorem gaps_eq (h : Separated list) (hne : list ≠ []) :
    gaps list = (list.head hne).gapBelow?.toList ++
      (list.zipWith Interval.gapTo list.tail ++ (list.getLast hne).gapAbove?.toList) := by
  cases list with
  | nil => exact absurd rfl hne
  | cons i rest =>
    rw [gaps, gapsAfter_eq h, List.head_cons, List.tail_cons, Interval.gapBelow?]
    cases i.lower.isUnbounded <;> rfl

theorem length_gaps (h : Separated list) (hne : list ≠ []) :
    (gaps list).length + (list.head hne).lower.isUnbounded.toNat +
      (list.getLast hne).upper.isUnbounded.toNat = list.length + 1 := by
  have hbelow := (list.head hne).length_gapBelow?
  have habove := (list.getLast hne).length_gapAbove?
  have hpos := List.length_pos_of_ne_nil hne
  rw [gaps_eq h hne]
  simp only [List.length_append, List.length_zipWith, List.length_tail]
  omega

/-! ### Gaps in normal form -/

/-- A gap starts where the interval below it ends, and ends where the one above it starts. -/
theorem cuts_gap {last lower : Endpoint α} (h : last.upperCut < lower.lowerCut) :
    Interval.lowerCut ⟨last.flip, lower.flip⟩ = last.upperCut ∧
      Interval.upperCut ⟨last.flip, lower.flip⟩ = lower.lowerCut :=
  ⟨Endpoint.lowerCut_flip (Endpoint.isUnbounded_of_upperCut_lt h),
    Endpoint.upperCut_flip (Endpoint.isUnbounded_of_lt_lowerCut h)⟩

/-- The gaps after an end start there or later, and are apart. -/
theorem separated_gapsAfter {last : Endpoint α} (h : Separated rest)
    (hlast : ∀ i ∈ rest, last.upperCut < i.lowerCut) :
    (∀ g ∈ gapsAfter last rest, last.upperCut ≤ g.lowerCut ∧ g.lowerCut < g.upperCut) ∧
      (gapsAfter last rest).Pairwise fun g g' => g.upperCut < g'.lowerCut := by
  -- along the list, from one end to the next
  induction rest generalizing last with
  | nil =>
    by_cases hub : last.isUnbounded = true
    · rw [gapsAfter, if_pos hub]
      exact ⟨by simp, .nil⟩
    · rw [gapsAfter, if_neg hub]
      have hcut : Interval.lowerCut ⟨last.flip, .unbounded⟩ = last.upperCut :=
        Endpoint.lowerCut_flip (Bool.not_eq_true _ ▸ hub)
      refine ⟨List.forall_mem_singleton.mpr ⟨hcut.ge, ?_⟩, List.pairwise_singleton _ _⟩
      rw [hcut]
      exact Cut.lt_top.mpr fun htop => hub (Endpoint.upperCut_eq_top.mp htop)
  | cons i rest ih =>
    have hi := hlast i List.mem_cons_self
    have hne := Interval.isEmpty_eq_false_iff.mp (h.nonempty i List.mem_cons_self)
    obtain ⟨hstart, hpair⟩ := ih h.tail (List.pairwise_cons.mp h.pairwise).1
    obtain ⟨hl, hu⟩ := cuts_gap hi
    rw [gapsAfter_cons hi]
    refine ⟨List.forall_mem_cons.mpr ⟨⟨hl.ge, ?_⟩, ?_⟩, List.pairwise_cons.mpr ⟨?_, hpair⟩⟩
    · rw [hl, hu]
      exact hi
    · intro g hg
      exact ⟨(hi.trans hne).le.trans (hstart g hg).1, (hstart g hg).2⟩
    · -- the interval in between keeps this gap apart from the later ones
      intro g hg
      rw [hu]
      exact hne.trans_le (hstart g hg).1

theorem separated_gaps (h : Separated list) : Separated (gaps list) := by
  cases list with
  | nil => exact separated_of_pairwise (by simp [gaps, Interval.all, Interval.lowerCut,
      Interval.upperCut, Endpoint.lowerCut, Endpoint.upperCut]) (List.pairwise_singleton _ _)
  | cons i rest =>
    obtain ⟨hstart, hpair⟩ := separated_gapsAfter h.tail (List.pairwise_cons.mp h.pairwise).1
    -- there is a gap before the first interval unless it has no lower bound
    by_cases hub : i.lower.isUnbounded = true
    · rw [gaps, if_pos hub]
      exact separated_of_pairwise (fun g hg => (hstart g hg).2) hpair
    · have hne := Interval.isEmpty_eq_false_iff.mp (h.nonempty i List.mem_cons_self)
      have hcut : Interval.upperCut ⟨.unbounded, i.lower.flip⟩ = i.lowerCut :=
        Endpoint.upperCut_flip (Bool.not_eq_true _ ▸ hub)
      rw [gaps, if_neg hub]
      refine separated_of_pairwise (List.forall_mem_cons.mpr ⟨?_, fun g hg => (hstart g hg).2⟩)
        (List.pairwise_cons.mpr ⟨fun g hg => ?_, hpair⟩)
      · rw [hcut]
        exact Cut.bottom_lt.mpr fun hbottom => hub (Endpoint.lowerCut_eq_bottom.mp hbottom)
      · rw [hcut]
        exact hne.trans_le (hstart g hg).1

/-- The complement is the list of the gaps. It is neither nothing nor everything. -/
theorem complement_eq_gaps (h : (intervals list).IsNormal) :
    (intervals list).complement = intervals (gaps list) := by
  have hlist : (intervals list).complement.toList = gaps list :=
    toList_ofIntervals_eq_self_iff.mpr (separated_gaps h.2.2)
  let s : NormalSet α := ⟨intervals list, h⟩
  -- a constant complement would make the list constant, by complementing again
  have hback : (intervals list).complement.complement = intervals list :=
    congrArg Subtype.val (compl_compl s)
  cases hc : (intervals list).complement with
  | all =>
    rw [hc] at hback
    cases hback
  | none =>
    rw [hc] at hback
    cases hback
  | intervals gapList =>
    rw [hc] at hlist
    exact congrArg intervals hlist

/-! ### Listed values -/

section Values

variable {values vs : List α}

theorem isNormal_points (hne : vs ≠ []) (hvs : vs.SortedLT) :
    (intervals (vs.map Interval.point)).IsNormal := by
  refine ⟨by simpa using hne, ?_, separated_of_pairwise ?_ ?_⟩
  · intro hall
    obtain ⟨v, -, hv⟩ := List.mem_map.mp (hall ▸ List.mem_singleton_self Interval.all)
    cases hv
  · intro i hi
    obtain ⟨v, -, rfl⟩ := List.mem_map.mp hi
    exact Cut.before_lt_after.mpr le_rfl
  · exact List.pairwise_map.mpr (hvs.pairwise.imp Cut.after_lt_before.mpr)

/-- The distinct values of a list, in ascending order. -/
theorem exists_sortedLT (h : values ≠ []) :
    ∃ vs : List α, vs ≠ [] ∧ vs.SortedLT ∧ (∀ v, v ∈ vs ↔ v ∈ values) ∧
      vs.length = values.toFinset.card := by
  have hmem : ∀ v, v ∈ values.toFinset.sort ↔ v ∈ values := by
    intro v
    rw [Finset.mem_sort, List.mem_toFinset]
  obtain ⟨v, hv⟩ := List.exists_mem_of_ne_nil values h
  exact ⟨values.toFinset.sort, List.ne_nil_of_mem ((hmem v).mpr hv), Finset.sortedLT_sort _, hmem,
    Finset.length_sort _⟩

/-- The set of some values is the list of their points, in ascending order. -/
theorem ofValues_eq_points (hne : vs ≠ []) (hvs : vs.SortedLT) (hmem : ∀ v, v ∈ vs ↔ v ∈ values) :
    ofValues values = intervals (vs.map .point) := by
  refine (isNormal_ofValues values).ext (isNormal_points hne hvs) fun p => ?_
  rw [covers_ofValues]
  show CoveredBy (values.map .point) p ↔ CoveredBy (vs.map .point) p
  simp only [CoveredBy, List.mem_map, hmem]

/-- The gaps of points are the open intervals around them. -/
theorem gaps_points (hne : vs ≠ []) (hvs : vs.SortedLT) :
    gaps (vs.map .point) = Interval.below (vs.head hne) ::
      (vs.zipWith (fun a b => ⟨.exclusive a, .exclusive b⟩) vs.tail ++
        [Interval.above (vs.getLast hne)]) := by
  have hpoints : vs.map Interval.point ≠ [] := by simpa using hne
  rw [gaps_eq (isNormal_points hne hvs).2.2 hpoints, List.head_map, List.getLast_map,
    ← List.map_tail, List.zipWith_map]
  rfl

/-- The complement of some values is a list of intervals, and never a constant. -/
theorem exists_complement_ofValues (h : values ≠ []) :
    ∃ list, (ofValues values).complement = intervals list := by
  obtain ⟨vs, hne, hvs, hmem, -⟩ := exists_sortedLT h
  rw [ofValues_eq_points hne hvs hmem, complement_eq_gaps (isNormal_points hne hvs)]
  exact ⟨_, rfl⟩

end Values

/-- **The complement of a set in normal form is exactly its gaps**: what lies below the first
interval, between neighbours and above the last. The complement of a list of values is one open
interval more than there are distinct values. -/
theorem complement_gaps :
    (∀ (list : List (Interval α)) (h : (intervals list).IsNormal),
      (intervals list).complement = intervals ((list.head h.1).gapBelow?.toList ++
        (list.zipWith Interval.gapTo list.tail ++ (list.getLast h.1).gapAbove?.toList)) ∧
      (intervals list).complement.size + (list.head h.1).lower.isUnbounded.toNat +
        (list.getLast h.1).upper.isUnbounded.toNat = list.length + 1) ∧
    ∀ values : List α, values ≠ [] → ∃ (vs : List α) (hne : vs ≠ []),
      vs.SortedLT ∧ (∀ v, v ∈ vs ↔ v ∈ values) ∧ vs.length = values.toFinset.card ∧
      ofValues values = intervals (vs.map .point) ∧
      (ofValues values).complement = intervals (Interval.below (vs.head hne) ::
        (vs.zipWith (fun a b => ⟨.exclusive a, .exclusive b⟩) vs.tail ++
          [Interval.above (vs.getLast hne)])) ∧
      (ofValues values).complement.size = values.toFinset.card + 1 := by
  constructor
  · intro list h
    rw [complement_eq_gaps h]
    exact ⟨congrArg intervals (gaps_eq h.2.2 h.1), length_gaps h.2.2 h.1⟩
  · intro values hvalues
    obtain ⟨vs, hne, hvs, hmem, hlength⟩ := exists_sortedLT hvalues
    have hpoints : ofValues values = intervals (vs.map .point) := ofValues_eq_points hne hvs hmem
    have hnormal := isNormal_points hne hvs
    refine ⟨vs, hne, hvs, hmem, hlength, hpoints, ?_, ?_⟩
    · rw [hpoints, complement_eq_gaps hnormal, gaps_points hne hvs]
    · -- a point has both ends, so no gap is missing
      have hsize := length_gaps hnormal.2.2 hnormal.1
      rw [List.head_map, List.getLast_map, List.length_map, hlength] at hsize
      rw [hpoints, complement_eq_gaps hnormal]
      exact hsize

/-- Two intervals that leave out one value between them, and a list that repeats a value. -/
theorem complement_gaps_one_value_between :
    (intervals [Interval.below (Scalar.boolean false),
        ⟨.exclusive (.boolean false), .inclusive (.boolean true)⟩]).IsNormal ∧
      (intervals [Interval.below (Scalar.boolean false),
        ⟨.exclusive (.boolean false), .inclusive (.boolean true)⟩]).complement
          = intervals [.point (.boolean false), .above (.boolean true)] ∧
      [Scalar.boolean true, .boolean false, .boolean true] ≠ [] ∧
      (ofValues [Scalar.boolean true, .boolean false, .boolean true]).complement.size = 3 := by
  have hnormal : (intervals [Interval.below (Scalar.boolean false),
      ⟨.exclusive (.boolean false), .inclusive (.boolean true)⟩]).IsNormal := by decide
  obtain ⟨hlist, hvalues⟩ := complement_gaps (α := Scalar)
  obtain ⟨hgaps, -⟩ := hlist _ hnormal
  obtain ⟨vs, -, -, -, -, -, -, hsize⟩ :=
    hvalues [.boolean true, .boolean false, .boolean true] (by decide)
  exact ⟨hnormal, hgaps, by decide, hsize⟩

end IntervalSet

end ColumnFilter
