/-
The normal form of interval lists.

An interval covers the cuts from its lower one up to, but not including, its upper one; a value
is held when the cut before it is covered. Coverage sees more than values do: an open interval
between neighbouring values holds nothing and still covers a cut.

`ofIntervals` drops what is empty, sorts and merges:

* `IntervalSet.covers_ofIntervals`: its result covers what the list covers;
* `IntervalSet.isNormal_ofIntervals`: its result is in normal form, whatever the list;
* `IntervalSet.toList_ofIntervals_eq_self_iff`: it changes every list that is not separated.

A gap is what separates neighbours, and along a list of intervals that may be empty, but do not
run backwards, it separates any two (`Interval.pairwise_gap_of_isChain`).

The merge is where both are decided, by induction along the sorted list: what is still to come
starts no earlier than the interval being grown (`covers_mergeInto`, `separated_mergeInto`).
-/
import ColumnFilter.Interval.Set
import ColumnFilter.Proofs.Interval.Cut
import Mathlib.Data.List.Chain
import Mathlib.Order.MinMax

namespace ColumnFilter

variable {α : Type}

/-! ### Intervals between cuts -/

namespace Interval

/-- The cut where an interval starts. -/
def lowerCut (i : Interval α) : Cut α := i.lower.lowerCut

/-- The cut where an interval ends. -/
def upperCut (i : Interval α) : Cut α := i.upper.upperCut

/-- An interval is determined by its cuts. -/
theorem ext_cuts {i j : Interval α} (hl : i.lowerCut = j.lowerCut)
    (hu : i.upperCut = j.upperCut) : i = j := by
  obtain ⟨l, u⟩ := i
  obtain ⟨l', u'⟩ := j
  rw [show l = l' from Endpoint.lowerCut_injective hl,
    show u = u' from Endpoint.upperCut_injective hu]

theorem isAll_iff {i : Interval α} : i.isAll = true ↔ i = all := by
  obtain ⟨l, u⟩ := i
  cases l <;> cases u <;> simp [isAll, all, Endpoint.isUnbounded]

variable [LinearOrder α]

/-- A cut inside an interval, or where it starts. -/
def Covers (i : Interval α) (p : Cut α) : Prop := i.lowerCut ≤ p ∧ p < i.upperCut

theorem isEmpty_iff {i : Interval α} : i.isEmpty = true ↔ i.upperCut ≤ i.lowerCut :=
  Endpoint.crosses_iff

theorem isEmpty_eq_false_iff {i : Interval α} : i.isEmpty = false ↔ i.lowerCut < i.upperCut := by
  rw [← not_le, ← isEmpty_iff, Bool.not_eq_true]

theorem contains_iff {i : Interval α} {v : α} : i.contains v = true ↔ i.Covers (.before v) := by
  rw [contains, Bool.and_eq_true, Endpoint.admitsAbove_iff, Endpoint.admitsBelow_iff]
  exact Iff.rfl

theorem contains_point {a v : α} : (point a).contains v = true ↔ v = a := by
  rw [contains_iff, le_antisymm_iff, and_comm]
  simp [Covers, point, lowerCut, upperCut, Endpoint.lowerCut, Endpoint.upperCut]

theorem point?_eq_some {i : Interval α} {a : α} : i.point? = some a ↔ i = point a := by
  obtain ⟨l, u⟩ := i
  cases l <;> cases u <;> simp [point?, point]
  rename_i b c
  constructor
  · rintro ⟨rfl, rfl⟩
    exact ⟨rfl, rfl⟩
  · rintro ⟨rfl, rfl⟩
    exact ⟨rfl, rfl⟩

theorem isPoint_iff {i : Interval α} : i.isPoint = true ↔ ∃ a, i = point a := by
  rw [isPoint, Option.isSome_iff_exists]
  exact exists_congr fun a => point?_eq_some

theorem precedes_iff {i j : Interval α} :
    i.precedes j = true ↔ i.lowerCut < j.lowerCut ∧ i.upperCut < j.lowerCut := by
  rw [precedes, Bool.and_eq_true, beq_iff_eq, Endpoint.compareLower_eq_lt, Bool.not_eq_true',
    ← Bool.not_eq_true, Endpoint.touches_iff, not_le]
  exact Iff.rfl

theorem covers_all {p : Cut α} : (all : Interval α).Covers p ↔ p < .top := by
  simp [Covers, all, lowerCut, upperCut, Endpoint.lowerCut, Endpoint.upperCut]

end Interval

/-! ### Gaps between intervals -/

namespace Interval

variable {α : Type} [LinearOrder α] {i j k : Interval α}

/-- An interval that does not end at a lesser value than it starts at. It may be empty, but only
by leaving out the value that it starts and ends at. -/
def Ascends (i : Interval α) : Prop := ∀ a ∈ i.lower.value?, ∀ b ∈ i.upper.value?, a ≤ b

/-- Beyond a gap nothing starts before an interval that ascends. -/
theorem lowerCut_le_of_gap (hi : i.Ascends) (hij : i.upperCut < j.lowerCut) :
    i.lowerCut ≤ j.lowerCut := by
  obtain ⟨l, u⟩ := i
  cases l with
  | unbounded => exact Cut.bottom_le _
  | inclusive a =>
    cases u with
    | unbounded => exact absurd hij (Cut.not_top_lt _)
    | inclusive b => exact (Cut.before_le_after.mpr (hi a rfl b rfl)).trans hij.le
    | exclusive b => exact (Cut.before_le_before.mpr (hi a rfl b rfl)).trans hij.le
  | exclusive a =>
    cases u with
    | unbounded => exact absurd hij (Cut.not_top_lt _)
    | inclusive b => exact (Cut.after_le_after.mpr (hi a rfl b rfl)).trans hij.le
    | exclusive b =>
      -- the interval may be empty, but the cut after its value is still before the gap's end
      exact (Cut.after_le_after.mpr (hi a rfl b rfl)).trans (Cut.before_lt_iff.mp hij)

theorem ascends_of_isEmpty_eq_false (hi : i.isEmpty = false) : i.Ascends := by
  obtain ⟨l, u⟩ := i
  have hlu := isEmpty_eq_false_iff.mp hi
  rintro a ha b hb
  cases l <;> cases u <;> cases ha <;> cases hb
  · exact Cut.before_lt_after.mp hlu
  · exact (Cut.before_lt_before.mp hlu).le
  · exact (Cut.after_lt_after.mp hlu).le
  · exact (Cut.after_lt_before.mp hlu).le

/-- Where a gap starts is no greater value than where it ends. -/
theorem value_le_of_gap (hij : i.upperCut < j.lowerCut) {a b : α} (ha : a ∈ i.upper.value?)
    (hb : b ∈ j.lower.value?) : a ≤ b := by
  obtain ⟨_, u⟩ := i
  obtain ⟨l, _⟩ := j
  cases u <;> cases l <;> cases ha <;> cases hb
  · exact (Cut.after_lt_before.mp hij).le
  · exact (Cut.after_lt_after.mp hij).le
  · exact (Cut.before_lt_before.mp hij).le
  · exact Cut.before_lt_after.mp hij

theorem gap_trans (hj : j.Ascends) (hij : i.upperCut < j.lowerCut) (hjk : j.upperCut < k.lowerCut) :
    i.upperCut < k.lowerCut :=
  hij.trans_le (lowerCut_le_of_gap hj hjk)

/-- Gaps between neighbours are gaps throughout a list of intervals that ascend. -/
theorem pairwise_gap_of_isChain {list : List (Interval α)} (h : ∀ i ∈ list, i.Ascends)
    (hchain : list.IsChain fun i j => i.upperCut < j.lowerCut) :
    list.Pairwise fun i j => i.upperCut < j.lowerCut := by
  let gap (i j : Interval α) : Prop := i.upperCut < j.lowerCut ∧ j.Ascends
  have : IsTrans (Interval α) gap :=
    ⟨fun _ _ _ hij hjk => ⟨gap_trans hij.2 hij.1 hjk.1, hjk.2⟩⟩
  have hgap : list.IsChain gap := hchain.imp_of_mem_imp fun _ j _ hj hij => ⟨hij, h j hj⟩
  exact hgap.pairwise.imp And.left

end Interval

/-! ### Lists of intervals -/

/-- In a list in order, of two elements one comes before the other. -/
theorem eq_or_rel_or_rel {R : α → α → Prop} {list : List α} (h : list.Pairwise R) {a b : α}
    (ha : a ∈ list) (hb : b ∈ list) : a = b ∨ R a b ∨ R b a := by
  let related (a b : α) : Prop := a = b ∨ R a b ∨ R b a
  have hforth : list.Pairwise related := h.imp fun hab => .inr (.inl hab)
  have hback : list.Pairwise (flip related) := h.imp fun hab => .inr (.inr hab)
  exact hforth.forall_of_forall_of_flip (fun _ _ => .inl rfl) hback ha hb

/-- A cut inside some interval of a list. -/
def CoveredBy [LinearOrder α] (list : List (Interval α)) (p : Cut α) : Prop :=
  ∃ i ∈ list, i.Covers p

/-- A list of intervals none of which is empty, each with a gap before the next. -/
structure Separated [LinearOrder α] (list : List (Interval α)) : Prop where
  nonempty : ∀ i ∈ list, i.isEmpty = false
  chain : list.IsChain fun i j => i.precedes j = true

instance [LinearOrder α] (list : List (Interval α)) : Decidable (Separated list) :=
  decidable_of_iff ((∀ i ∈ list, i.isEmpty = false) ∧ list.IsChain fun i j => i.precedes j = true)
    ⟨fun h => ⟨h.1, h.2⟩, fun h => ⟨h.nonempty, h.chain⟩⟩

section Lists

variable [LinearOrder α] {p : Cut α} {i : Interval α} {list rest : List (Interval α)}

@[simp] theorem not_coveredBy_nil : ¬ CoveredBy [] p := by
  simp [CoveredBy]

@[simp] theorem coveredBy_cons : CoveredBy (i :: list) p ↔ i.Covers p ∨ CoveredBy list p := by
  simp [CoveredBy]

@[simp] theorem coveredBy_append {left right : List (Interval α)} :
    CoveredBy (left ++ right) p ↔ CoveredBy left p ∨ CoveredBy right p := by
  simp [CoveredBy, or_and_right, exists_or]

/-- An interval that starts up to a cut that is not covered ends there at the latest. -/
theorem upperCut_le_of_not_coveredBy (h : ¬ CoveredBy list p) (hi : i ∈ list)
    (hl : i.lowerCut ≤ p) : i.upperCut ≤ p := by
  by_contra hp
  exact h ⟨i, hi, hl, not_le.mp hp⟩

theorem Separated.tail (h : Separated (i :: list)) : Separated list where
  nonempty j hj := h.nonempty j (List.mem_cons_of_mem _ hj)
  chain := h.chain.tail

/-- In a separated list an interval ends before any later one starts. -/
theorem Separated.pairwise (h : Separated list) :
    list.Pairwise fun i j => i.upperCut < j.lowerCut :=
  Interval.pairwise_gap_of_isChain
    (fun i hi => Interval.ascends_of_isEmpty_eq_false (h.nonempty i hi))
    (h.chain.imp fun _ _ hij => (Interval.precedes_iff.mp hij).2)

/-- Of two intervals of a separated list one ends before the other starts. -/
theorem Separated.eq_or_lt_or_lt {j : Interval α} (h : Separated list) (hi : i ∈ list)
    (hj : j ∈ list) : i = j ∨ i.upperCut < j.lowerCut ∨ j.upperCut < i.lowerCut :=
  eq_or_rel_or_rel h.pairwise hi hj

/-- A separated list does not cover the cut where one of its intervals ends. -/
theorem Separated.not_coveredBy_upperCut (h : Separated list) (hi : i ∈ list) :
    ¬ CoveredBy list i.upperCut := by
  rintro ⟨j, hj, hl, hu⟩
  have hne := Interval.isEmpty_eq_false_iff.mp (h.nonempty i hi)
  rcases h.eq_or_lt_or_lt hi hj with rfl | hij | hji
  · exact lt_irrefl _ hu
  · exact not_le_of_gt hij hl
  · exact lt_asymm hu (hji.trans hne)

/-- In a separated list an interval without ends stands alone. -/
theorem Separated.eq_singleton_all (h : Separated list) (hall : Interval.all ∈ list) :
    list = [Interval.all] := by
  obtain ⟨left, right, rfl⟩ := List.append_of_mem hall
  obtain ⟨-, hright, hleft⟩ := List.pairwise_append.mp h.pairwise
  have hright := (List.pairwise_cons.mp hright).1
  cases left with
  | cons i left =>
    exact absurd (hleft i List.mem_cons_self _ List.mem_cons_self) (Cut.not_lt_bottom _)
  | nil =>
    cases right with
    | nil => rfl
    | cons i right => exact absurd (hright i List.mem_cons_self) (Cut.not_top_lt _)

theorem touches_eq_false_iff {i j : Interval α} :
    i.upper.touches j.lower = false ↔ i.upperCut < j.lowerCut := by
  rw [← Bool.not_eq_true, Endpoint.touches_iff, not_le]
  exact Iff.rfl

/-- Between intervals that are not empty, a gap is all that has to be looked for. -/
theorem separated_iff :
    Separated list ↔ (∀ i ∈ list, i.isEmpty = false) ∧
      list.IsChain fun i j => i.upper.touches j.lower = false := by
  constructor
  · intro h
    refine ⟨h.nonempty, h.chain.imp fun i j hij => ?_⟩
    exact touches_eq_false_iff.mpr (Interval.precedes_iff.mp hij).2
  · rintro ⟨hne, hchain⟩
    refine ⟨hne, hchain.imp_of_mem_imp fun i j hi _ hij => ?_⟩
    rw [touches_eq_false_iff] at hij
    have hi := Interval.isEmpty_eq_false_iff.mp (hne i hi)
    exact Interval.precedes_iff.mpr ⟨hi.trans hij, hij⟩

theorem separated_of_pairwise (hne : ∀ i ∈ list, i.lowerCut < i.upperCut)
    (h : list.Pairwise fun i j => i.upperCut < j.lowerCut) : Separated list :=
  separated_iff.mpr ⟨fun i hi => Interval.isEmpty_eq_false_iff.mpr (hne i hi),
    (h.imp touches_eq_false_iff.mpr).isChain⟩

end Lists

/-! ### Merging -/

namespace IntervalSet

theorem isAll_of_toList_eq_nil {s : IntervalSet α} (h : s.toList = []) : s.isAll = false := by
  match s, h with
  | none, _ => rfl
  | intervals [], _ => rfl

theorem toList_of_isAll {s : IntervalSet α} (h : s.isAll = true) :
    s.toList = [Interval.all] := by
  match s, h with
  | all, _ => rfl
  | intervals [i], h => rw [toList, Interval.isAll_iff.mp (show i.isAll = true from h)]

theorem toList_ofMerged (list : List (Interval α)) : (ofMerged list).toList = list := by
  match list with
  | [] => rfl
  | [i] =>
    by_cases hall : i.isAll = true
    · rw [ofMerged, if_pos hall, Interval.isAll_iff.mp hall]
      rfl
    · rw [ofMerged, if_neg hall]
      rfl
  | i :: j :: rest => rfl

theorem contains_eq_any [Ord α] (s : IntervalSet α) (v : α) :
    s.contains v = s.toList.any (·.contains v) := by
  cases s <;> rfl

section Merging

variable [LinearOrder α] {p : Cut α} {current i : Interval α} {rest : List (Interval α)}

/-- An interval grown to reach at least as far as another. -/
def grow (current i : Interval α) : Interval α :=
  ⟨current.lower, current.upper.maxUpper i.upper⟩

@[simp] theorem lowerCut_grow : (grow current i).lowerCut = current.lowerCut := rfl

@[simp] theorem upperCut_grow :
    (grow current i).upperCut = max current.upperCut i.upperCut :=
  Endpoint.upperCut_maxUpper _ _

theorem mergeInto_of_touches (h : i.lowerCut ≤ current.upperCut) :
    mergeInto current (i :: rest) = mergeInto (grow current i) rest :=
  if_pos (Endpoint.touches_iff.mpr h)

theorem mergeInto_of_lt (h : current.upperCut < i.lowerCut) :
    mergeInto current (i :: rest) = current :: mergeInto i rest :=
  if_neg fun htouch => not_le_of_gt h (Endpoint.touches_iff.mp htouch)

/-- Growing an interval by one that starts inside it, or where it ends, adds what that one
covers. -/
theorem covers_grow (hle : current.lowerCut ≤ i.lowerCut)
    (htouch : i.lowerCut ≤ current.upperCut) :
    (grow current i).Covers p ↔ current.Covers p ∨ i.Covers p := by
  rw [Interval.Covers, upperCut_grow, lowerCut_grow, lt_max_iff]
  constructor
  · rintro ⟨hl, hu⟩
    rcases lt_or_ge p current.upperCut with hp | hp
    · exact .inl ⟨hl, hp⟩
    · exact .inr ⟨htouch.trans hp, hu.resolve_left hp.not_gt⟩
  · rintro (⟨hl, hu⟩ | ⟨hl, hu⟩)
    · exact ⟨hl, .inl hu⟩
    · exact ⟨hle.trans hl, .inr hu⟩

theorem covers_mergeInto (hle : ∀ i ∈ rest, current.lowerCut ≤ i.lowerCut)
    (hsorted : rest.Pairwise fun i j => i.lowerCut ≤ j.lowerCut) :
    CoveredBy (mergeInto current rest) p ↔ CoveredBy (current :: rest) p := by
  -- along the list, for every interval that may be growing
  induction rest generalizing current with
  | nil => rfl
  | cons i rest ih =>
    obtain ⟨hi, hsorted⟩ := List.pairwise_cons.mp hsorted
    have hci := hle i List.mem_cons_self
    rcases le_or_gt i.lowerCut current.upperCut with htouch | hgap
    · have hgrown : ∀ j ∈ rest, (grow current i).lowerCut ≤ j.lowerCut :=
        fun j hj => hci.trans (hi j hj)
      rw [mergeInto_of_touches htouch, ih hgrown hsorted, coveredBy_cons,
        covers_grow hci htouch, coveredBy_cons, coveredBy_cons, or_assoc]
    · rw [mergeInto_of_lt hgap, coveredBy_cons, ih hi hsorted, coveredBy_cons, coveredBy_cons,
        coveredBy_cons]

/-- The merged intervals start no earlier than the one being grown. -/
theorem le_lowerCut_mergeInto (hle : ∀ i ∈ rest, current.lowerCut ≤ i.lowerCut)
    (hsorted : rest.Pairwise fun i j => i.lowerCut ≤ j.lowerCut) :
    ∀ j ∈ mergeInto current rest, current.lowerCut ≤ j.lowerCut := by
  -- the current interval only grows upwards, so its lower cut stays the least
  induction rest generalizing current with
  | nil => simp [mergeInto]
  | cons i rest ih =>
    obtain ⟨hi, hsorted⟩ := List.pairwise_cons.mp hsorted
    have hci := hle i List.mem_cons_self
    intro j hj
    rcases le_or_gt i.lowerCut current.upperCut with htouch | hgap
    · rw [mergeInto_of_touches htouch] at hj
      exact @ih (grow current i) (fun k hk => hci.trans (hi k hk)) hsorted j hj
    · rw [mergeInto_of_lt hgap] at hj
      rcases List.mem_cons.mp hj with rfl | hj
      · exact le_rfl
      · exact hci.trans (ih hi hsorted j hj)

theorem separated_mergeInto (hne : ∀ i ∈ current :: rest, i.lowerCut < i.upperCut)
    (hle : ∀ i ∈ rest, current.lowerCut ≤ i.lowerCut)
    (hsorted : rest.Pairwise fun i j => i.lowerCut ≤ j.lowerCut) :
    (∀ j ∈ mergeInto current rest, j.lowerCut < j.upperCut) ∧
      (mergeInto current rest).Pairwise fun i j => i.upperCut < j.lowerCut := by
  induction rest generalizing current with
  | nil => simpa [mergeInto] using hne
  | cons i rest ih =>
    obtain ⟨hi, hsorted⟩ := List.pairwise_cons.mp hsorted
    obtain ⟨hcurrent, hne⟩ := List.forall_mem_cons.mp hne
    have hci := hle i List.mem_cons_self
    rcases le_or_gt i.lowerCut current.upperCut with htouch | hgap
    · rw [mergeInto_of_touches htouch]
      have hgrown : (grow current i).lowerCut < (grow current i).upperCut := by
        rw [lowerCut_grow, upperCut_grow]
        exact lt_max_of_lt_left hcurrent
      -- the grown interval starts where it did, so it still starts first
      refine ih (List.forall_mem_cons.mpr ⟨hgrown, ?_⟩) (fun k hk => hci.trans (hi k hk)) hsorted
      exact fun k hk => hne k (List.mem_cons_of_mem _ hk)
    · obtain ⟨hne', hpair⟩ := ih hne hi hsorted
      rw [mergeInto_of_lt hgap]
      refine ⟨List.forall_mem_cons.mpr ⟨hcurrent, hne'⟩, List.pairwise_cons.mpr ⟨?_, hpair⟩⟩
      exact fun j hj => hgap.trans_le (le_lowerCut_mergeInto hi hsorted j hj)

end Merging

/-! ### Sorting -/

section Sorting

variable [LinearOrder α] {p : Cut α} {list : List (Interval α)}

theorem not_compareLower_gt {i j : Interval α} :
    (i.lower.compareLower j.lower != .gt) = true ↔ i.lowerCut ≤ j.lowerCut := by
  rw [bne_iff_ne, Ne, Endpoint.compareLower_eq_gt, not_lt]
  exact Iff.rfl

theorem sorted_sortByLower (list : List (Interval α)) :
    (sortByLower list).Pairwise fun i j => i.lowerCut ≤ j.lowerCut := by
  have hsorted : (sortByLower list).Pairwise
      fun i j => (i.lower.compareLower j.lower != .gt) = true := by
    refine List.pairwise_mergeSort (fun i j k hij hjk => ?_) (fun i j => ?_) list
    · rw [not_compareLower_gt] at hij hjk ⊢
      exact hij.trans hjk
    · rw [Bool.or_eq_true, not_compareLower_gt, not_compareLower_gt]
      exact le_total _ _
  exact hsorted.imp not_compareLower_gt.mp

theorem coveredBy_sortByLower : CoveredBy (sortByLower list) p ↔ CoveredBy list p := by
  simp [CoveredBy, sortByLower]

theorem mem_nonempty {i : Interval α} :
    i ∈ sortByLower (list.filter (!·.isEmpty)) ↔ i ∈ list ∧ i.lowerCut < i.upperCut := by
  simp [sortByLower, Interval.isEmpty_eq_false_iff]

theorem coveredBy_nonempty :
    CoveredBy (list.filter (!·.isEmpty)) p ↔ CoveredBy list p := by
  constructor
  · rintro ⟨i, hi, hp⟩
    exact ⟨i, (List.mem_filter.mp hi).1, hp⟩
  · rintro ⟨i, hi, hp⟩
    have hne : i.isEmpty = false := Interval.isEmpty_eq_false_iff.mpr (hp.1.trans_lt hp.2)
    exact ⟨i, List.mem_filter.mpr ⟨hi, by simp [hne]⟩, hp⟩

/-- The intervals of a list, sorted and merged. -/
theorem mergeSorted_spec (list : List (Interval α)) :
    Separated (mergeSorted (sortByLower (list.filter (!·.isEmpty)))) ∧
      ∀ p, CoveredBy (mergeSorted (sortByLower (list.filter (!·.isEmpty)))) p ↔
        CoveredBy list p := by
  have hsorted := sorted_sortByLower (list.filter (!·.isEmpty))
  have hne : ∀ i ∈ sortByLower (list.filter (!·.isEmpty)), i.lowerCut < i.upperCut :=
    fun i hi => (mem_nonempty.mp hi).2
  have hcover : ∀ p, CoveredBy (sortByLower (list.filter (!·.isEmpty))) p ↔ CoveredBy list p :=
    fun p => coveredBy_sortByLower.trans coveredBy_nonempty
  -- sorting and dropping empty intervals leave the cover as it is; so does the merge
  cases h : sortByLower (list.filter (!·.isEmpty)) with
  | nil =>
    rw [h] at hcover
    exact ⟨⟨by simp [mergeSorted], .nil⟩, hcover⟩
  | cons current rest =>
    rw [h] at hsorted hne hcover
    obtain ⟨hle, hsorted⟩ := List.pairwise_cons.mp hsorted
    obtain ⟨hne', hpair⟩ := separated_mergeInto hne hle hsorted
    exact ⟨separated_of_pairwise hne' hpair,
      fun p => (covers_mergeInto hle hsorted).trans (hcover p)⟩

end Sorting

/-! ### Normal form -/

section NormalForm

variable [LinearOrder α] {p : Cut α} {list : List (Interval α)} {s : IntervalSet α}

/-- A set in normal form: everything, nothing, or a separated list that is neither. -/
def IsNormal : IntervalSet α → Prop
  | all => True
  | none => True
  | intervals list => list ≠ [] ∧ list ≠ [Interval.all] ∧ Separated list

instance : (s : IntervalSet α) → Decidable s.IsNormal
  | all => inferInstanceAs (Decidable True)
  | none => inferInstanceAs (Decidable True)
  | intervals list =>
    inferInstanceAs (Decidable (list ≠ [] ∧ list ≠ [Interval.all] ∧ Separated list))

theorem IsNormal.separated (h : s.IsNormal) : Separated s.toList := by
  cases s with
  | all => exact ⟨by simp [toList, Interval.isEmpty, Interval.all, Endpoint.crosses], .singleton _⟩
  | none => exact ⟨by simp [toList], .nil⟩
  | intervals list => exact h.2.2

/-- A cut inside the set. -/
def Covers (s : IntervalSet α) (p : Cut α) : Prop := CoveredBy s.toList p

theorem contains_iff {v : α} : s.contains v = true ↔ s.Covers (.before v) := by
  rw [contains_eq_any, List.any_eq_true]
  simp only [Covers, CoveredBy, Interval.contains_iff]

theorem covers_ofMerged : (ofMerged list).Covers p ↔ CoveredBy list p := by
  unfold ofMerged
  split
  · rfl
  · split
    · rename_i h
      rw [Interval.isAll_iff.mp h]
      rfl
    · rfl
  · rfl

theorem isNormal_ofMerged (h : Separated list) : (ofMerged list).IsNormal := by
  match list, h with
  | [], _ => trivial
  | [i], h =>
    by_cases hall : i.isAll = true
    · simp [ofMerged, hall, IsNormal]
    · simpa [ofMerged, hall, IsNormal, ← Interval.isAll_iff] using h
  | i :: j :: rest, h => exact ⟨by simp, by simp, h⟩

/-- The result covers what the intervals cover. -/
theorem covers_ofIntervals : (ofIntervals list).Covers p ↔ CoveredBy list p :=
  covers_ofMerged.trans ((mergeSorted_spec list).2 p)

/-- The result is in normal form, whatever the list. -/
theorem isNormal_ofIntervals (list : List (Interval α)) : (ofIntervals list).IsNormal :=
  isNormal_ofMerged (mergeSorted_spec list).1

theorem contains_ofIntervals (v : α) :
    (ofIntervals list).contains v = list.any (·.contains v) := by
  rw [Bool.eq_iff_iff, contains_iff, covers_ofIntervals, List.any_eq_true]
  simp only [CoveredBy, Interval.contains_iff]

theorem isNormal_ofValues (values : List α) : (ofValues values).IsNormal :=
  isNormal_ofIntervals _

theorem covers_ofValues {values : List α} :
    (ofValues values).Covers p ↔ CoveredBy (values.map .point) p :=
  covers_ofIntervals

/-- Of the cuts before values, points cover those before their own. -/
theorem coveredBy_points {values : List α} {v : α} :
    CoveredBy (values.map .point) (.before v) ↔ v ∈ values := by
  simp [CoveredBy, ← Interval.contains_iff, Interval.contains_point]

theorem contains_ofValues {values : List α} (v : α) :
    (ofValues values).contains v = decide (v ∈ values) := by
  rw [Bool.eq_iff_iff, contains_iff, covers_ofValues, coveredBy_points, decide_eq_true_iff]

end NormalForm

/-! ### Lists in normal form already -/

section Separated

variable [LinearOrder α] {current : Interval α} {list rest : List (Interval α)}

theorem mergeInto_of_separated (h : Separated (current :: rest)) :
    mergeInto current rest = current :: rest := by
  induction rest generalizing current with
  | nil => rfl
  | cons i rest ih =>
    have hgap := (List.pairwise_cons.mp h.pairwise).1 i List.mem_cons_self
    rw [mergeInto_of_lt hgap, ih h.tail]

theorem sortByLower_of_separated (h : Separated list) : sortByLower list = list := by
  refine List.mergeSort_of_pairwise (h.pairwise.imp_of_mem fun {i j} hi _ hij => ?_)
  have hne := Interval.isEmpty_eq_false_iff.mp (h.nonempty i hi)
  exact not_compareLower_gt.mpr (hne.trans hij).le

/-- The separated lists are those that normalization leaves as they are. -/
theorem toList_ofIntervals_eq_self_iff : (ofIntervals list).toList = list ↔ Separated list := by
  rw [ofIntervals, toList_ofMerged]
  constructor
  · intro h
    rw [← h]
    exact (mergeSorted_spec list).1
  · intro h
    have hnonempty : list.filter (!·.isEmpty) = list :=
      List.filter_eq_self.mpr fun i hi => by rw [h.nonempty i hi]; rfl
    rw [hnonempty, sortByLower_of_separated h]
    cases list with
    | nil => rfl
    | cons current rest => exact mergeInto_of_separated h

end Separated

end IntervalSet

end ColumnFilter
