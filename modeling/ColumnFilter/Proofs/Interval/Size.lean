/-
The size of unions and intersections.

An intersection is made of the pieces that an interval of the first list shares with one of the
second. Of lists in normal form

* the pieces come in order, with gaps between them (`IntervalSet.separated_pieces`), so
  normalization has nothing to do;
* they are fewer than the intervals of both lists together (`IntervalSet.length_pieces_le`).

The pieces are counted along both lists at once. Of the two first intervals, the one that ends
first meets nothing but the other (`IntervalSet.pieces_cons_cons_of_le`,
`IntervalSet.pieces_cons_cons_of_ge`): one interval is done with for at most one piece.
-/
import ColumnFilter.Proofs.Interval.Algebra
import ColumnFilter.Proofs.Order.Linear

namespace ColumnFilter.IntervalSet

variable {α : Type} [LinearOrder α] {i j k : Interval α} {l r list rest : List (Interval α)}

/-! ### Union -/

theorem length_mergeInto_le (current : Interval α) (rest : List (Interval α)) :
    (mergeInto current rest).length ≤ rest.length + 1 := by
  induction rest generalizing current with
  | nil => exact Nat.le_refl 1
  | cons i rest ih =>
    rcases le_or_gt i.lowerCut current.upperCut with htouch | hgap
    · rw [mergeInto_of_touches htouch]
      exact (ih (grow current i)).trans (Nat.le_succ _)
    · rw [mergeInto_of_lt hgap]
      exact Nat.succ_le_succ (ih i)

/-- Normalization does not add intervals. -/
theorem size_ofIntervals_le (list : List (Interval α)) : (ofIntervals list).size ≤ list.length := by
  have hsorted : (sortByLower (list.filter (!·.isEmpty))).length ≤ list.length := by
    rw [sortByLower, List.length_mergeSort]
    exact List.length_filter_le _ list
  rw [size, ofIntervals, toList_ofMerged]
  cases h : sortByLower (list.filter (!·.isEmpty)) with
  | nil => exact Nat.zero_le _
  | cons current rest =>
    rw [h] at hsorted
    exact (length_mergeInto_le current rest).trans hsorted

/-! ### Pieces in order -/

theorem meet?_eq_none_of_le (h : i.upperCut ≤ j.lowerCut) : i.meet? j = .none :=
  meet?_eq_none.mpr ((min_le_left _ _).trans (h.trans (le_max_right _ _)))

theorem meet?_eq_none_of_ge (h : j.upperCut ≤ i.lowerCut) : i.meet? j = .none :=
  meet?_eq_none.mpr ((min_le_right _ _).trans (h.trans (le_max_left _ _)))

/-- What an interval shares with two others is apart, if these are. -/
theorem lt_of_meet?_right {m n : Interval α} (hm : i.meet? j = some m) (hn : i.meet? k = some n)
    (h : j.upperCut < k.lowerCut) : m.upperCut < n.lowerCut := by
  calc m.upperCut = min i.upperCut j.upperCut := (meet?_eq_some.mp hm).2.1
    _ ≤ j.upperCut := min_le_right _ _
    _ < k.lowerCut := h
    _ ≤ max i.lowerCut k.lowerCut := le_max_right _ _
    _ = n.lowerCut := (meet?_eq_some.mp hn).1.symm

/-- Whatever two intervals share with others is apart, if they are. -/
theorem lt_of_meet?_left {i' j' m n : Interval α} (hm : i.meet? j = some m)
    (hn : i'.meet? j' = some n) (h : i.upperCut < i'.lowerCut) : m.upperCut < n.lowerCut := by
  calc m.upperCut = min i.upperCut j.upperCut := (meet?_eq_some.mp hm).2.1
    _ ≤ i.upperCut := min_le_left _ _
    _ < i'.lowerCut := h
    _ ≤ max i'.lowerCut j'.lowerCut := le_max_left _ _
    _ = n.lowerCut := (meet?_eq_some.mp hn).1.symm

/-- In loop order, the pieces of separated lists are a separated list. -/
theorem separated_pieces (hl : Separated l) (hr : Separated r) : Separated (pieces l r) := by
  refine separated_of_pairwise ?_ (List.pairwise_flatMap.mpr ⟨?_, ?_⟩)
  · intro m hm
    obtain ⟨i, -, hm⟩ := List.mem_flatMap.mp hm
    obtain ⟨j, -, hmeet⟩ := List.mem_filterMap.mp hm
    exact (meet?_eq_some.mp hmeet).2.2
  · -- the pieces of one interval are apart as the intervals of `r` are
    intro i _
    refine List.pairwise_filterMap.mpr (hr.pairwise.imp ?_)
    intro j k hjk m hm n hn
    exact lt_of_meet?_right hm hn hjk
  · -- the pieces of different intervals are apart as those are
    refine hl.pairwise.imp ?_
    intro i i' hii' m hm n hn
    obtain ⟨j, -, hm⟩ := List.mem_filterMap.mp hm
    obtain ⟨j', -, hn⟩ := List.mem_filterMap.mp hn
    exact lt_of_meet?_left hm hn hii'

/-! ### Number of pieces -/

/-- An interval that ends before the second of a list starts meets only the first. -/
theorem pieces_cons_cons_of_le (hr : ∀ k ∈ r, j.upperCut < k.lowerCut)
    (h : i.upperCut ≤ j.upperCut) :
    pieces (i :: l) (j :: r) = (i.meet? j).toList ++ pieces l (j :: r) := by
  have hnone : r.filterMap i.meet? = [] := by
    refine List.filterMap_eq_nil_iff.mpr ?_
    intro k hk
    exact meet?_eq_none_of_le (h.trans (hr k hk).le)
  rw [pieces, List.flatMap_cons, List.filterMap_cons, hnone]
  cases i.meet? j <;> rfl

/-- An interval that the second of a list starts after is met only by the first. -/
theorem pieces_cons_cons_of_ge (hl : ∀ k ∈ l, i.upperCut < k.lowerCut)
    (h : j.upperCut ≤ i.upperCut) :
    pieces (i :: l) (j :: r) = (i.meet? j).toList ++ pieces (i :: l) r := by
  have hskip : pieces l (j :: r) = pieces l r := by
    refine List.flatMap_congr ?_
    intro k hk
    exact List.filterMap_cons_none (meet?_eq_none_of_ge (h.trans (hl k hk).le))
  show (j :: r).filterMap i.meet? ++ pieces l (j :: r) = _
  rw [hskip, List.filterMap_cons]
  cases i.meet? j <;> rfl

/-- Separated lists have fewer pieces than intervals. -/
theorem length_pieces_le (hl : Separated l) (hr : Separated r) :
    (pieces l r).length ≤ l.length + r.length - 1 := by
  -- along both lists, dropping the first interval that ends first
  induction l generalizing r with
  | nil => exact Nat.zero_le _
  | cons i l ihl =>
    induction r with
    | nil => simp [pieces]
    | cons j r ihr =>
      have hone : (i.meet? j).toList.length ≤ 1 := by
        cases i.meet? j <;> simp
      have hil := (List.pairwise_cons.mp hl.pairwise).1
      have hjr := (List.pairwise_cons.mp hr.pairwise).1
      rcases le_total i.upperCut j.upperCut with h | h
      · have hrest : (pieces l (j :: r)).length ≤ l.length + (j :: r).length - 1 := ihl hl.tail hr
        rw [pieces_cons_cons_of_le hjr h, List.length_append]
        simp only [List.length_cons] at hrest ⊢
        omega
      · have hrest : (pieces (i :: l) r).length ≤ (i :: l).length + r.length - 1 := ihr hr.tail
        rw [pieces_cons_cons_of_ge hil h, List.length_append]
        simp only [List.length_cons] at hrest ⊢
        omega

/-- **Intersections and unions stay linear in size.** The pieces of an intersection are in normal
form as they are collected. -/
theorem intersect_linear (hl : (intervals l).IsNormal) (hr : (intervals r).IsNormal) :
    Separated (pieces l r) ∧
      (ofIntervals (pieces l r)).toList = pieces l r ∧
      ((intervals l).intersect (intervals r)).toList = pieces l r ∧
      ((intervals l).intersect (intervals r)).size ≤ l.length + r.length - 1 ∧
      ((intervals l).union (intervals r)).size ≤ l.length + r.length := by
  have hsep : Separated (pieces l r) := separated_pieces hl.separated hr.separated
  have hkept : (ofIntervals (pieces l r)).toList = pieces l r :=
    toList_ofIntervals_eq_self_iff.mpr hsep
  -- no piece is lost or merged, so the pieces are counted before they are normalized
  refine ⟨hsep, hkept, hkept, ?_, ?_⟩
  · show (ofIntervals (pieces l r)).toList.length ≤ _
    rw [hkept]
    exact length_pieces_le hl.separated hr.separated
  · rw [← List.length_append]
    exact size_ofIntervals_le (l ++ r)

/-- An interval that shares one value with each of two: the bound is reached. -/
theorem intersect_linear_end_points :
    (intervals [Interval.upTo (Scalar.boolean false), .startingAt (.boolean true)]).IsNormal ∧
      (intervals [Interval.between (Scalar.boolean false) (.boolean true)]).IsNormal ∧
      ((intervals [Interval.upTo (Scalar.boolean false), .startingAt (.boolean true)]).intersect
        (intervals [.between (.boolean false) (.boolean true)])).toList
          = [.point (.boolean false), .point (.boolean true)] ∧
      ((intervals [Interval.upTo (Scalar.boolean false), .startingAt (.boolean true)]).intersect
        (intervals [.between (.boolean false) (.boolean true)])).size ≤ 2 := by
  have hl : (intervals [Interval.upTo (Scalar.boolean false),
      .startingAt (.boolean true)]).IsNormal := by decide
  have hr : (intervals [Interval.between (Scalar.boolean false) (.boolean true)]).IsNormal :=
    by decide
  obtain ⟨-, -, hlist, hsize, -⟩ := intersect_linear hl hr
  have hpieces : pieces [Interval.upTo (Scalar.boolean false), .startingAt (.boolean true)]
      [.between (.boolean false) (.boolean true)]
        = [.point (.boolean false), .point (.boolean true)] := by decide
  exact ⟨hl, hr, hlist.trans hpieces, hsize⟩

end ColumnFilter.IntervalSet
