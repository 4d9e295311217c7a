/-
Union, intersection and complement of interval sets.

Each operation keeps the normal form (`isNormal_union`, `isNormal_intersect`,
`isNormal_complement`) and is the Boolean operation on what is covered (`covers_union`,
`covers_intersect`, `covers_complement`), hence on the values that are held
(`contains_union`, `contains_intersect`, `contains_complement`).

Only the complement needs a normal set: it walks the gaps of a list (`coveredBy_gapsAfter`), and
in a list out of order these are not what the list leaves uncovered.
-/
import ColumnFilter.Proofs.Interval.Normal

namespace ColumnFilter.IntervalSet

variable {α : Type} [LinearOrder α] {p : Cut α} {s t : IntervalSet α}

@[simp] theorem covers_all : (all : IntervalSet α).Covers p ↔ p < .top := by
  simp [Covers, toList, Interval.covers_all]

@[simp] theorem not_covers_none : ¬ (none : IntervalSet α).Covers p :=
  not_coveredBy_nil

theorem Covers.lt_top (h : s.Covers p) : p < .top := by
  obtain ⟨i, -, -, hp⟩ := h
  exact hp.trans_le (Cut.le_top _)

/-! ### Union -/

theorem covers_union : (s.union t).Covers p ↔ s.Covers p ∨ t.Covers p := by
  cases s with
  | all =>
    simp only [union, covers_all]
    exact ⟨.inl, fun h => h.elim id Covers.lt_top⟩
  | none => cases t <;> simp [union]
  | intervals l =>
    cases t with
    | all =>
      simp only [union, covers_all]
      exact ⟨.inr, fun h => h.elim Covers.lt_top id⟩
    | none => simp [union]
    | intervals r => exact covers_ofIntervals.trans coveredBy_append

theorem isNormal_union (hs : s.IsNormal) (ht : t.IsNormal) : (s.union t).IsNormal := by
  cases s <;> cases t <;> first | trivial | assumption | exact isNormal_ofIntervals _

/-! ### Intersection -/

theorem lowerCut_shared (i j : Interval α) :
    Interval.lowerCut ⟨i.lower.maxLower j.lower, i.upper.minUpper j.upper⟩
      = max i.lowerCut j.lowerCut :=
  Endpoint.lowerCut_maxLower _ _

theorem upperCut_shared (i j : Interval α) :
    Interval.upperCut ⟨i.lower.maxLower j.lower, i.upper.minUpper j.upper⟩
      = min i.upperCut j.upperCut :=
  Endpoint.upperCut_minUpper _ _

/-- What two intervals share, if anything, runs from the later start to the earlier end. -/
theorem meet?_eq_some {i j k : Interval α} :
    i.meet? j = some k ↔ k.lowerCut = max i.lowerCut j.lowerCut ∧
      k.upperCut = min i.upperCut j.upperCut ∧ k.lowerCut < k.upperCut := by
  simp only [Interval.meet?, Option.ite_none_left_eq_some, Bool.not_eq_true,
    Interval.isEmpty_eq_false_iff, Option.some.injEq]
  constructor
  · rintro ⟨hne, rfl⟩
    exact ⟨lowerCut_shared i j, upperCut_shared i j, hne⟩
  · rintro ⟨hl, hu, hne⟩
    obtain rfl : ⟨i.lower.maxLower j.lower, i.upper.minUpper j.upper⟩ = k :=
      Interval.ext_cuts ((lowerCut_shared i j).trans hl.symm) ((upperCut_shared i j).trans hu.symm)
    exact ⟨hne, rfl⟩

theorem meet?_eq_none {i j : Interval α} :
    i.meet? j = .none ↔ min i.upperCut j.upperCut ≤ max i.lowerCut j.lowerCut := by
  rw [← lowerCut_shared, ← upperCut_shared, ← Interval.isEmpty_iff]
  simp [Interval.meet?]

theorem covers_of_meet? {i j k : Interval α} (h : i.meet? j = some k) :
    k.Covers p ↔ i.Covers p ∧ j.Covers p := by
  obtain ⟨hl, hu, -⟩ := meet?_eq_some.mp h
  rw [Interval.Covers, hl, hu, max_le_iff, lt_min_iff]
  exact and_and_and_comm

/-- What an interval shares with a list. -/
theorem coveredBy_filterMap_meet {i : Interval α} {r : List (Interval α)} :
    CoveredBy (r.filterMap i.meet?) p ↔ i.Covers p ∧ CoveredBy r p := by
  constructor
  · rintro ⟨k, hk, hp⟩
    obtain ⟨j, hj, hmeet⟩ := List.mem_filterMap.mp hk
    obtain ⟨hi, hjp⟩ := (covers_of_meet? hmeet).mp hp
    exact ⟨hi, j, hj, hjp⟩
  · rintro ⟨hi, j, hj, hjp⟩
    cases hmeet : i.meet? j with
    | none =>
      -- intervals that share a cut meet
      have hlow := max_le hi.1 hjp.1
      exact absurd (meet?_eq_none.mp hmeet) (not_le_of_gt (hlow.trans_lt (lt_min hi.2 hjp.2)))
    | some k =>
      exact ⟨k, List.mem_filterMap.mpr ⟨j, hj, hmeet⟩, (covers_of_meet? hmeet).mpr ⟨hi, hjp⟩⟩

theorem coveredBy_pieces {l r : List (Interval α)} :
    CoveredBy (pieces l r) p ↔ CoveredBy l p ∧ CoveredBy r p := by
  induction l with
  | nil => simp [pieces]
  | cons i l ih =>
    have hpieces : pieces (i :: l) r = r.filterMap i.meet? ++ pieces l r := rfl
    rw [hpieces, coveredBy_append, coveredBy_filterMap_meet, ih, coveredBy_cons, or_and_right]

theorem covers_intersect : (s.intersect t).Covers p ↔ s.Covers p ∧ t.Covers p := by
  cases s with
  | all =>
    rw [covers_all, and_iff_right_of_imp Covers.lt_top]
    cases t <;> rfl
  | none => simp [intersect]
  | intervals l =>
    cases t with
    | all =>
      simp only [intersect, covers_all]
      exact ⟨fun h => ⟨h, h.lt_top⟩, And.left⟩
    | none => simp [intersect]
    | intervals r => exact covers_ofIntervals.trans coveredBy_pieces

theorem isNormal_intersect (hs : s.IsNormal) (ht : t.IsNormal) : (s.intersect t).IsNormal := by
  cases s <;> cases t <;> first | trivial | assumption | exact isNormal_ofIntervals _

/-! ### Complement -/

/-- The gap between an upper end and the lower end after it. -/
theorem covers_gap {last lower : Endpoint α} (h : last.upperCut < lower.lowerCut) :
    Interval.Covers ⟨last.flip, lower.flip⟩ p ↔ last.upperCut ≤ p ∧ p < lower.lowerCut := by
  have hl := Endpoint.lowerCut_flip (Endpoint.isUnbounded_of_upperCut_lt h)
  have hu := Endpoint.upperCut_flip (Endpoint.isUnbounded_of_lt_lowerCut h)
  rw [← hl, ← hu]
  exact Iff.rfl

/-- The gap before the first of some intervals. -/
theorem covers_gap_before {lower : Endpoint α} (h : lower.isUnbounded = false) :
    Interval.Covers ⟨.unbounded, lower.flip⟩ p ↔ p < lower.lowerCut := by
  rw [← Endpoint.upperCut_flip h]
  exact and_iff_right (Cut.bottom_le p)

/-- The gap after the last of some intervals. -/
theorem covers_gap_after {last : Endpoint α} (h : last.isUnbounded = false) :
    Interval.Covers ⟨last.flip, .unbounded⟩ p ↔ last.upperCut ≤ p ∧ p < .top := by
  rw [← Endpoint.lowerCut_flip h]
  exact Iff.rfl

theorem gapsAfter_cons {last : Endpoint α} {i : Interval α} {rest : List (Interval α)}
    (h : last.upperCut < i.lowerCut) :
    gapsAfter last (i :: rest) = ⟨last.flip, i.lower.flip⟩ :: gapsAfter i.upper rest := by
  have hne : Interval.isEmpty ⟨last.flip, i.lower.flip⟩ = false := by
    have hgap := (covers_gap h).mpr ⟨le_rfl, h⟩
    exact Interval.isEmpty_eq_false_iff.mpr (hgap.1.trans_lt hgap.2)
  rw [gapsAfter, hne]
  rfl

/-- What a separated list leaves uncovered lies before its first interval, or after it. -/
theorem not_coveredBy_cons {i : Interval α} {rest : List (Interval α)}
    (hsep : Separated (i :: rest)) :
    ¬ CoveredBy (i :: rest) p ↔ p < i.lowerCut ∨ i.upperCut ≤ p ∧ ¬ CoveredBy rest p := by
  have hne := Interval.isEmpty_eq_false_iff.mp (hsep.nonempty i List.mem_cons_self)
  have hafter := (List.pairwise_cons.mp hsep.pairwise).1
  rw [coveredBy_cons, not_or]
  constructor
  · rintro ⟨hi, hrest⟩
    rcases lt_or_ge p i.lowerCut with hlt | hge
    · exact .inl hlt
    · exact .inr ⟨le_of_not_gt fun hlt => hi ⟨hge, hlt⟩, hrest⟩
  · rintro (hlt | ⟨hge, hrest⟩)
    · -- before `i`, and so before whatever comes after `i`
      refine ⟨fun hi => not_lt_of_ge hi.1 hlt, ?_⟩
      rintro ⟨j, hj, hlow, -⟩
      exact not_lt_of_ge hlow (hlt.trans (hne.trans (hafter j hj)))
    · exact ⟨fun hi => not_lt_of_ge hge hi.2, hrest⟩

/-- The gaps after an end are what a separated list after it leaves uncovered from there on. -/
theorem coveredBy_gapsAfter {last : Endpoint α} {rest : List (Interval α)} (hsep : Separated rest)
    (hlast : ∀ i ∈ rest, last.upperCut < i.lowerCut) (hp : p < .top) :
    CoveredBy (gapsAfter last rest) p ↔ last.upperCut ≤ p ∧ ¬ CoveredBy rest p := by
  -- along the list, from one end to the next
  induction rest generalizing last with
  | nil =>
    by_cases hub : last.isUnbounded = true
    · have htop : last.upperCut = .top := Endpoint.upperCut_eq_top.mpr hub
      simpa [gapsAfter, hub, htop] using Cut.lt_top.mp hp
    · rw [Bool.not_eq_true] at hub
      simp [gapsAfter, hub, covers_gap_after, Cut.lt_top.mp hp]
  | cons i rest ih =>
    have hi := hlast i List.mem_cons_self
    have hne := Interval.isEmpty_eq_false_iff.mp (hsep.nonempty i List.mem_cons_self)
    have hafter := (List.pairwise_cons.mp hsep.pairwise).1
    rw [gapsAfter_cons hi, coveredBy_cons, covers_gap hi, ih hsep.tail hafter,
      not_coveredBy_cons hsep, and_or_left]
    -- what is left is that whatever lies beyond `i` lies beyond `last`
    refine or_congr_right (iff_and_self.mpr ?_)
    exact fun h => (hi.trans hne).le.trans h.1

/-- The gaps of a separated list are what it leaves uncovered. -/
theorem coveredBy_gaps {list : List (Interval α)} (hsep : Separated list) (hp : p < .top) :
    CoveredBy (gaps list) p ↔ ¬ CoveredBy list p := by
  cases list with
  | nil => simpa [gaps, Interval.covers_all] using Cut.lt_top.mp hp
  | cons i rest =>
    have hgaps := coveredBy_gapsAfter hsep.tail (List.pairwise_cons.mp hsep.pairwise).1 hp
    rw [not_coveredBy_cons hsep]
    by_cases hub : i.lower.isUnbounded = true
    · -- nothing comes before an interval without a lower end
      have hbottom : i.lowerCut = .bottom := Endpoint.lowerCut_eq_bottom.mpr hub
      rw [gaps, if_pos hub, hgaps, hbottom, or_iff_right (Cut.not_lt_bottom p)]
      exact Iff.rfl
    · rw [gaps, if_neg hub, coveredBy_cons, covers_gap_before (Bool.not_eq_true _ ▸ hub), hgaps]
      exact Iff.rfl

theorem covers_complement (hs : s.IsNormal) :
    s.complement.Covers p ↔ p < .top ∧ ¬ s.Covers p := by
  cases s with
  | all => simp [complement]
  | none => simp [complement]
  | intervals list =>
    constructor
    · intro h
      exact ⟨h.lt_top, (coveredBy_gaps hs.2.2 h.lt_top).mp (covers_ofIntervals.mp h)⟩
    · rintro ⟨hp, hnot⟩
      exact covers_ofIntervals.mpr ((coveredBy_gaps hs.2.2 hp).mpr hnot)

theorem isNormal_complement (s : IntervalSet α) : s.complement.IsNormal := by
  cases s <;> first | trivial | exact isNormal_ofIntervals _

/-! ### Values -/

theorem contains_union (v : α) : (s.union t).contains v = (s.contains v || t.contains v) := by
  rw [Bool.eq_iff_iff, Bool.or_eq_true, contains_iff, contains_iff, contains_iff, covers_union]

theorem contains_intersect (v : α) :
    (s.intersect t).contains v = (s.contains v && t.contains v) := by
  rw [Bool.eq_iff_iff, Bool.and_eq_true, contains_iff, contains_iff, contains_iff,
    covers_intersect]

theorem contains_complement (hs : s.IsNormal) (v : α) :
    s.complement.contains v = !s.contains v := by
  rw [Bool.eq_iff_iff, Bool.not_eq_true', ← Bool.not_eq_true, contains_iff, contains_iff,
    covers_complement hs]
  exact and_iff_right (by simp)

end ColumnFilter.IntervalSet
