/-
Lists of intervals under a comparison coarser than the order of values.

A level of a graded comparison has one value or two, and nothing lies between the two
(`Graded.exists_levelEnds`). Three cuts then tell how a separated list meets a level: the cut
before its first value, the one after its first value and the one before its last.

* `LevelEnds.any_admitsBy_iff`: a list admits a level when two of three hold: the outer cuts are
  covered, and the one between is not.
* `twoOf_not`: where two of three hold of a list, two of three fail of what it leaves uncovered.
-/
import ColumnFilter.Proofs.Interval.Graded

namespace ColumnFilter

variable {α L : Type} [LinearOrder α] [LinearOrder L]

/-! ### The values of a level -/

/-- The first and the last value of the level of `v`, which may be one. -/
structure LevelEnds (level : α → L) (v first last : α) : Prop where
  le_iff (c : α) : level c ≤ level v ↔ c ≤ last
  ge_iff (c : α) : level v ≤ level c ↔ first ≤ c
  last_le (c : α) : first < c → last ≤ c

section Existence

variable {lt le : α → α → Bool} {proper : α → Prop} {level : α → L}

theorem Graded.levelEnds_pair (hg : Graded lt le proper level) {v a b : α} (hab : a < b)
    (ha : level a = level v) (hb : level b = level v) : LevelEnds level v a b where
  le_iff c := by
    constructor
    · intro hc
      by_contra hbc
      have hac : level a < level c := hg.level_lt hab (not_le.mp hbc)
      exact absurd (ha ▸ hac) (not_lt.mpr hc)
    · intro hc
      exact hb ▸ hg.level_mono hc
  ge_iff c := by
    constructor
    · intro hc
      by_contra hac
      have hcb : level c < level b := hg.level_lt (not_le.mp hac) hab
      exact absurd (hb ▸ hcb) (not_lt.mpr hc)
    · intro hc
      exact ha ▸ hg.level_mono hc
  last_le c hac := by
    by_contra hcb
    have hlt : level a < level b := hg.level_lt hac (not_le.mp hcb)
    exact absurd (ha.trans hb.symm) hlt.ne

theorem Graded.levelEnds_single (hg : Graded lt le proper level) {v : α}
    (h : ∀ c, level c = level v → c = v) : LevelEnds level v v v where
  le_iff c := by
    constructor
    · intro hc
      by_contra hvc
      have hvc := not_le.mp hvc
      exact absurd (h c (hc.antisymm (hg.level_mono hvc.le))) hvc.ne'
    · exact fun hc => hg.level_mono hc
  ge_iff c := by
    constructor
    · intro hc
      by_contra hcv
      have hcv := not_le.mp hcv
      exact absurd (h c ((hg.level_mono hcv.le).antisymm hc)) hcv.ne
    · exact fun hc => hg.level_mono hc
  last_le _ := le_of_lt

/-- A level has a first and a last value, since no three share it. -/
theorem Graded.exists_levelEnds (hg : Graded lt le proper level) (v : α) :
    ∃ first last, LevelEnds level v first last := by
  by_cases h : ∀ c, level c = level v → c = v
  · exact ⟨v, v, hg.levelEnds_single h⟩
  · push Not at h
    obtain ⟨c, hc, hcv⟩ := h
    rcases lt_or_gt_of_ne hcv with hcv | hvc
    · exact ⟨c, v, hg.levelEnds_pair hcv hc rfl⟩
    · exact ⟨v, c, hg.levelEnds_pair hvc rfl hc⟩

end Existence

/-! ### Two of three -/

/-- At least two of three propositions hold. -/
def TwoOf (p q r : Prop) : Prop := p ∧ q ∨ q ∧ r ∨ r ∧ p

theorem twoOf_not {p q r : Prop} : TwoOf (¬ p) (¬ q) (¬ r) ↔ ¬ TwoOf p q r := by
  unfold TwoOf
  tauto

namespace LevelEnds

variable {level : α → L} {v first last : α}

theorem first_le_last (h : LevelEnds level v first last) : first ≤ last :=
  ((h.ge_iff v).mp le_rfl).trans ((h.le_iff v).mp le_rfl)

/-! ### Cuts -/

theorem before_first_le (h : LevelEnds level v first last) : Cut.before first ≤ .before last :=
  Cut.before_le_before.mpr h.first_le_last

theorem map_le_before_iff (h : LevelEnds level v first last) {p : Cut α} :
    p.map level ≤ .before (level v) ↔ p ≤ .before first ∨ p = .before last := by
  cases p with
  | bottom => simp [Cut.map]
  | top => simp [Cut.map]
  | before c =>
    rw [Cut.map, Cut.before_le_before, Cut.before_le_before, Cut.before.injEq, h.le_iff]
    constructor
    · intro hc
      -- nothing lies between the two values of a level
      rcases le_or_gt c first with hfirst | hfirst
      · exact .inl hfirst
      · exact .inr (hc.antisymm (h.last_le c hfirst))
    · rintro (hc | rfl)
      · exact hc.trans h.first_le_last
      · exact le_rfl
  | after c =>
    rw [Cut.map, Cut.after_le_before, Cut.after_le_before, ← not_le, h.ge_iff, not_le]
    simp

theorem before_lt_map_iff (h : LevelEnds level v first last) {p : Cut α} :
    .before (level v) < p.map level ↔ .after last ≤ p ∨ p = .after first := by
  cases p with
  | bottom => simp [Cut.map]
  | top => simp [Cut.map]
  | before c =>
    rw [Cut.map, Cut.before_lt_before, Cut.after_le_before, ← not_le, h.le_iff, not_le]
    simp
  | after c =>
    rw [Cut.map, Cut.before_lt_after, Cut.after_le_after, Cut.after.injEq, h.ge_iff]
    constructor
    · intro hc
      rcases hc.eq_or_lt with hfirst | hfirst
      · exact .inr hfirst.symm
      · exact .inl (h.last_le c hfirst)
    · rintro (hc | rfl)
      · exact h.first_le_last.trans hc
      · exact le_rfl

/-- No cut lies between the one after the first value and the one before the last. -/
theorem before_last_le (h : LevelEnds level v first last) {p : Cut α} (hp : .after first < p) :
    .before last ≤ p := by
  cases p with
  | bottom => exact absurd hp (Cut.not_lt_bottom _)
  | top => exact Cut.le_top _
  | before c => exact h.last_le c (Cut.after_lt_before.mp hp)
  | after c => exact h.last_le c (Cut.after_lt_after.mp hp)

/-! ### Intervals -/

variable {i : Interval α} {list : List (Interval α)}

theorem admitsBy_iff {lt le : α → α → Bool} {proper : α → Prop}
    (h : LevelEnds level v first last) (hg : Graded lt le proper level) (hv : proper v)
    (hproper : ∀ a ∈ i.endValues, proper a) :
    i.admitsBy (.plain lt le) v = true ↔
      (i.lowerCut ≤ .before first ∨ i.lowerCut = .before last) ∧
        (.after last ≤ i.upperCut ∨ i.upperCut = .after first) := by
  have hends : ∀ a ∈ i.endValues, proper a ∧ proper v := fun a ha => ⟨hproper a ha, hv⟩
  obtain ⟨hl, hu⟩ := Interval.forall_mem_endValues.mp hends
  rw [Interval.admitsBy, Bool.and_eq_true, hg.admitsAboveBy_iff, hg.admitsBelowBy_iff,
    and_iff_right hl, and_iff_right hu, h.map_le_before_iff, h.before_lt_map_iff]
  exact Iff.rfl

/-! ### Lists -/

/-- Of the two values of a level, a list with an interval that starts before the last one does not
cover the cut after the first. -/
theorem not_coveredBy_after_first (h : LevelEnds level v first last) (hs : Separated list)
    (hi : i ∈ list) (hlt : first < last) (hl : i.lowerCut = .before last) :
    ¬ CoveredBy list (.after first) := by
  rintro ⟨j, hj, hjl, hju⟩
  have hne := Interval.isEmpty_eq_false_iff.mp (hs.nonempty i hi)
  have hfirst : .after first < i.lowerCut := by
    rw [hl]
    exact Cut.after_lt_before.mpr hlt
  rcases hs.eq_or_lt_or_lt hi hj with rfl | hij | hji
  · exact not_le_of_gt hfirst hjl
  · exact not_le_of_gt (hfirst.trans (hne.trans hij)) hjl
  · -- the end of `j` would lie in between
    rw [hl] at hji
    exact not_le_of_gt hji (h.before_last_le hju)

variable {lt le : α → α → Bool} {proper : α → Prop}

theorem twoOf_of_admitsBy (h : LevelEnds level v first last) (hg : Graded lt le proper level)
    (hv : proper v) (hs : Separated list) (hi : i ∈ list)
    (hproper : ∀ a ∈ i.endValues, proper a) (hadmits : i.admitsBy (.plain lt le) v = true) :
    TwoOf (CoveredBy list (.before first)) (¬ CoveredBy list (.after first))
      (CoveredBy list (.before last)) := by
  have hne := Interval.isEmpty_eq_false_iff.mp (hs.nonempty i hi)
  obtain ⟨hl, hu⟩ := (h.admitsBy_iff hg hv hproper).mp hadmits
  rcases hu with hu | hu
  · have hlast : Cut.before last < i.upperCut := Cut.before_lt_iff.mpr hu
    rcases hl with hl | hl
    · -- both outer cuts are inside
      exact .inr (.inr ⟨⟨i, hi, hl.trans h.before_first_le, hlast⟩, i, hi, hl,
        h.before_first_le.trans_lt hlast⟩)
    · have hcovered : CoveredBy list (.before last) := ⟨i, hi, hl.le, hlast⟩
      rcases h.first_le_last.eq_or_lt with rfl | hlt
      · exact .inr (.inr ⟨hcovered, hcovered⟩)
      · exact .inr (.inl ⟨h.not_coveredBy_after_first hs hi hlt hl, hcovered⟩)
  · have hnot : ¬ CoveredBy list (.after first) := hu ▸ hs.not_coveredBy_upperCut hi
    rcases hl with hl | hl
    · exact .inl ⟨⟨i, hi, hl, Cut.before_lt_iff.mpr hu.ge⟩, hnot⟩
    · exact .inr (.inl ⟨hnot, i, hi, hl.le, hl ▸ hne⟩)

theorem exists_admitsBy_of_twoOf (h : LevelEnds level v first last)
    (hg : Graded lt le proper level) (hv : proper v) (hs : Separated list)
    (hproper : ∀ i ∈ list, ∀ a ∈ i.endValues, proper a)
    (htwo : TwoOf (CoveredBy list (.before first)) (¬ CoveredBy list (.after first))
      (CoveredBy list (.before last))) :
    ∃ i ∈ list, i.admitsBy (.plain lt le) v = true := by
  have hadmits {i : Interval α} (hi : i ∈ list) := h.admitsBy_iff hg hv (hproper i hi)
  rcases htwo with ⟨⟨i, hi, hl, hu⟩, hnot⟩ | ⟨hnot, i, hi, hl, hu⟩ |
    ⟨⟨j, hj, hjl, hju⟩, i, hi, hl, hu⟩
  · -- the interval ends after the first value
    have hfirst : i.lowerCut ≤ .after first := hl.trans (Cut.before_le_after.mpr le_rfl)
    have hend : i.upperCut = .after first :=
      (upperCut_le_of_not_coveredBy hnot hi hfirst).antisymm (Cut.before_lt_iff.mp hu)
    exact ⟨i, hi, (hadmits hi).mpr ⟨.inl hl, .inr hend⟩⟩
  · have hlast := Cut.before_lt_iff.mp hu
    refine ⟨i, hi, (hadmits hi).mpr ⟨?_, .inl hlast⟩⟩
    rcases le_or_gt i.lowerCut (.after first) with hfirst | hfirst
    · -- it ends after the first value, which is then the last one too
      have hend := hlast.trans (upperCut_le_of_not_coveredBy hnot hi hfirst)
      have hle : last ≤ first := Cut.after_le_after.mp hend
      exact .inl (hl.trans (Cut.before_le_before.mpr hle))
    · -- it starts before the last value
      exact .inr (hl.antisymm (h.before_last_le hfirst))
  · refine ⟨i, hi, (hadmits hi).mpr ⟨.inl hl, ?_⟩⟩
    rcases hs.eq_or_lt_or_lt hi hj with rfl | hij | hji
    · exact .inl (Cut.before_lt_iff.mp hju)
    · -- another interval covers the last cut, so this one ends in between
      right
      by_contra hne
      have hlast := h.before_last_le (lt_of_le_of_ne (Cut.before_lt_iff.mp hu) (Ne.symm hne))
      exact not_le_of_gt (hij.trans_le hjl) hlast
    · exact absurd (hji.trans_le (hl.trans h.before_first_le)) (lt_asymm hju)

/-- A separated list admits a level when two of three hold: it covers the cut before the first
value, it leaves the cut after that one, it covers the cut before the last value. -/
theorem any_admitsBy_iff (h : LevelEnds level v first last) (hg : Graded lt le proper level)
    (hv : proper v) (hs : Separated list) (hproper : ∀ i ∈ list, ∀ a ∈ i.endValues, proper a) :
    list.any (·.admitsBy (.plain lt le) v) = true ↔
      TwoOf (CoveredBy list (.before first)) (¬ CoveredBy list (.after first))
        (CoveredBy list (.before last)) := by
  rw [List.any_eq_true]
  constructor
  · rintro ⟨i, hi, hadmits⟩
    exact h.twoOf_of_admitsBy hg hv hs hi (hproper i hi) hadmits
  · exact h.exists_admitsBy_of_twoOf hg hv hs hproper

end LevelEnds

end ColumnFilter
