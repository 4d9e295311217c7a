/-
Sets in normal form are a Boolean algebra.

A set in normal form is determined by the cuts that it covers (`IntervalSet.IsNormal.ext`), so the
laws of sets hold as equations between lists of intervals, and not of their members alone: an
open interval between neighbours has no member, and still makes a set different from `none`.

* `NormalSet` is the type of such sets, with union, intersection and complement for `⊔`, `⊓` and
  `ᶜ`. Coverage embeds it into the sets of cuts (`NormalSet.coverage_injective`), from where it
  has its laws.
* `IntervalSet.boolean_laws` says them of the operations on interval sets.
-/
import ColumnFilter.Proofs.Interval.Algebra
import ColumnFilter.Proofs.Order.Linear
import Mathlib.Order.BooleanAlgebra.Set

namespace ColumnFilter

variable {α : Type} [LinearOrder α]

/-! ### Separated lists are determined by what they cover -/

section Lists

variable {i j : Interval α} {list list' : List (Interval α)} {p : Cut α}

theorem Separated.coveredBy_lowerCut (h : Separated (i :: list)) :
    CoveredBy (i :: list) i.lowerCut := by
  have hne := Interval.isEmpty_eq_false_iff.mp (h.nonempty i List.mem_cons_self)
  exact coveredBy_cons.mpr (.inl ⟨le_rfl, hne⟩)

/-- Nothing is covered before the first interval. -/
theorem Separated.lowerCut_le (h : Separated (i :: list)) (hp : CoveredBy (i :: list) p) :
    i.lowerCut ≤ p := by
  rcases coveredBy_cons.mp hp with hp | ⟨j, hj, hp, -⟩
  · exact hp.1
  · have hne := Interval.isEmpty_eq_false_iff.mp (h.nonempty i List.mem_cons_self)
    exact (hne.trans ((List.pairwise_cons.mp h.pairwise).1 j hj)).le.trans hp

/-- What comes after the first interval covers what the list covers beyond its end. -/
theorem Separated.coveredBy_tail_iff (h : Separated (i :: list)) :
    CoveredBy list p ↔ i.upperCut ≤ p ∧ CoveredBy (i :: list) p := by
  constructor
  · rintro ⟨j, hj, hp⟩
    have hij := (List.pairwise_cons.mp h.pairwise).1 j hj
    exact ⟨hij.le.trans hp.1, coveredBy_cons.mpr (.inr ⟨j, hj, hp⟩)⟩
  · rintro ⟨hle, hp⟩
    exact (coveredBy_cons.mp hp).resolve_left fun hi => not_lt_of_ge hle hi.2

/-- A list starts and ends its first interval no later than one that covers as much. -/
theorem Separated.upperCut_le (h : Separated (i :: list)) (h' : Separated (j :: list'))
    (hcover : ∀ p, CoveredBy (i :: list) p ↔ CoveredBy (j :: list') p) :
    j.lowerCut ≤ i.lowerCut ∧ j.upperCut ≤ i.upperCut := by
  have hlower : j.lowerCut ≤ i.lowerCut := h'.lowerCut_le ((hcover _).mp h.coveredBy_lowerCut)
  have hne := Interval.isEmpty_eq_false_iff.mp (h.nonempty i List.mem_cons_self)
  -- the cut where `i` ends is left uncovered, which ends `j` there at the latest
  have hgap : ¬ CoveredBy (j :: list') i.upperCut := by
    rw [← hcover]
    exact h.not_coveredBy_upperCut List.mem_cons_self
  exact ⟨hlower, upperCut_le_of_not_coveredBy hgap List.mem_cons_self (hlower.trans hne.le)⟩

/-- Separated lists that cover the same cuts are equal. -/
theorem Separated.ext (h : Separated list) (h' : Separated list')
    (hcover : ∀ p, CoveredBy list p ↔ CoveredBy list' p) : list = list' := by
  -- head by head: the first cut that is covered starts both lists, and the first gap ends it
  induction list generalizing list' with
  | nil =>
    cases list' with
    | nil => rfl
    | cons j list' => exact absurd ((hcover _).mpr h'.coveredBy_lowerCut) not_coveredBy_nil
  | cons i list ih =>
    cases list' with
    | nil => exact absurd ((hcover _).mp h.coveredBy_lowerCut) not_coveredBy_nil
    | cons j list' =>
      have hij := h.upperCut_le h' hcover
      have hji := h'.upperCut_le h fun p => (hcover p).symm
      obtain rfl : i = j :=
        Interval.ext_cuts (le_antisymm hji.1 hij.1) (le_antisymm hji.2 hij.2)
      have htail : ∀ p, CoveredBy list p ↔ CoveredBy list' p := by
        intro p
        rw [h.coveredBy_tail_iff, h'.coveredBy_tail_iff, hcover]
      rw [ih h.tail h'.tail htail]

end Lists

/-! ### Sets in normal form are determined by what they cover -/

namespace IntervalSet

variable {s t : IntervalSet α}

theorem IsNormal.eq_of_toList_eq (hs : s.IsNormal) (ht : t.IsNormal)
    (h : s.toList = t.toList) : s = t := by
  cases s with
  | all =>
    cases t with
    | all => rfl
    | none => cases h
    | intervals r => exact absurd h.symm ht.2.1
  | none =>
    cases t with
    | all => cases h
    | none => rfl
    | intervals r => exact absurd h.symm ht.1
  | intervals l =>
    cases t with
    | all => exact absurd h hs.2.1
    | none => exact absurd h hs.1
    | intervals r => exact congrArg intervals h

/-- Sets in normal form that cover the same cuts are equal. -/
theorem IsNormal.ext (hs : s.IsNormal) (ht : t.IsNormal)
    (h : ∀ p, s.Covers p ↔ t.Covers p) : s = t :=
  hs.eq_of_toList_eq ht (hs.separated.ext ht.separated h)

end IntervalSet

/-! ### The algebra of normal sets -/

/-- Sets of values in normal form. -/
def NormalSet (α : Type) [LinearOrder α] : Type := {s : IntervalSet α // s.IsNormal}

namespace NormalSet

instance : Max (NormalSet α) := ⟨fun s t => ⟨s.1.union t.1, IntervalSet.isNormal_union s.2 t.2⟩⟩

instance : Min (NormalSet α) :=
  ⟨fun s t => ⟨s.1.intersect t.1, IntervalSet.isNormal_intersect s.2 t.2⟩⟩

instance : Compl (NormalSet α) := ⟨fun s => ⟨s.1.complement, s.1.isNormal_complement⟩⟩

instance : Top (NormalSet α) := ⟨⟨.all, trivial⟩⟩

instance : Bot (NormalSet α) := ⟨⟨.none, trivial⟩⟩

instance : SDiff (NormalSet α) := ⟨fun s t => s ⊓ tᶜ⟩

instance : HImp (NormalSet α) := ⟨fun s t => t ⊔ sᶜ⟩

/-- The cuts that a set covers, of those that can be covered. -/
def coverage (s : NormalSet α) : Set {p : Cut α // p < .top} := {p | s.1.Covers p}

instance : LE (NormalSet α) := ⟨fun s t => s.coverage ⊆ t.coverage⟩

instance : LT (NormalSet α) := ⟨fun s t => s ≤ t ∧ ¬ t ≤ s⟩

theorem coverage_injective : Function.Injective (coverage (α := α)) := by
  intro s t h
  refine Subtype.ext (s.2.ext t.2 fun p => ?_)
  by_cases hp : p < .top
  · exact Set.ext_iff.mp h ⟨p, hp⟩
  · exact iff_of_false (fun hs => hp hs.lt_top) fun ht => hp ht.lt_top

theorem coverage_sup (s t : NormalSet α) : (s ⊔ t).coverage = s.coverage ∪ t.coverage :=
  Set.ext fun _ => IntervalSet.covers_union

theorem coverage_inf (s t : NormalSet α) : (s ⊓ t).coverage = s.coverage ∩ t.coverage :=
  Set.ext fun _ => IntervalSet.covers_intersect

theorem coverage_top : (⊤ : NormalSet α).coverage = Set.univ :=
  Set.ext fun p => iff_true_intro (IntervalSet.covers_all.mpr p.2)

theorem coverage_bot : (⊥ : NormalSet α).coverage = ∅ :=
  Set.ext fun _ => iff_false_intro IntervalSet.not_covers_none

theorem coverage_compl (s : NormalSet α) : sᶜ.coverage = s.coverageᶜ :=
  Set.ext fun p => (IntervalSet.covers_complement s.2).trans (and_iff_right p.2)

instance : BooleanAlgebra (NormalSet α) :=
  coverage_injective.booleanAlgebra coverage Iff.rfl Iff.rfl coverage_sup coverage_inf
    coverage_top coverage_bot coverage_compl
    (fun s t => by rw [Set.sdiff_eq, ← coverage_compl]; exact coverage_inf s tᶜ)
    (fun s t => by rw [himp_eq, ← coverage_compl]; exact coverage_sup t sᶜ)

end NormalSet

namespace IntervalSet

/-- **The laws of a Boolean algebra hold of sets in normal form**, as equations between lists of
intervals. -/
theorem boolean_laws {a b c : IntervalSet α} (ha : a.IsNormal) (hb : b.IsNormal)
    (hc : c.IsNormal) :
    a.complement.complement = a ∧
      (a.union b).complement = a.complement.intersect b.complement ∧
      (a.intersect b).complement = a.complement.union b.complement ∧
      a.union a.complement = all ∧ a.intersect a.complement = none ∧
      a.intersect b = b.intersect a ∧
      (a.intersect b).intersect c = a.intersect (b.intersect c) ∧ a.intersect a = a ∧
      a.intersect (b.union c) = (a.intersect b).union (a.intersect c) ∧
      a.union (b.intersect c) = (a.union b).intersect (a.union c) ∧
      a.union (a.intersect b) = a ∧ a.intersect (a.union b) = a := by
  let s : NormalSet α := ⟨a, ha⟩
  let t : NormalSet α := ⟨b, hb⟩
  let u : NormalSet α := ⟨c, hc⟩
  -- each law is one of the Boolean algebra of normal sets
  refine ⟨?_, ?_, ?_, ?_, ?_, ?_, ?_, ?_, ?_, ?_, ?_, ?_⟩
  · show sᶜᶜ.1 = s.1
    rw [compl_compl]
  · show (s ⊔ t)ᶜ.1 = (sᶜ ⊓ tᶜ).1
    rw [compl_sup]
  · show (s ⊓ t)ᶜ.1 = (sᶜ ⊔ tᶜ).1
    rw [compl_inf]
  · show (s ⊔ sᶜ).1 = (⊤ : NormalSet α).1
    rw [sup_compl_eq_top]
  · show (s ⊓ sᶜ).1 = (⊥ : NormalSet α).1
    rw [inf_compl_eq_bot]
  · show (s ⊓ t).1 = (t ⊓ s).1
    rw [inf_comm]
  · show (s ⊓ t ⊓ u).1 = (s ⊓ (t ⊓ u)).1
    rw [inf_assoc]
  · show (s ⊓ s).1 = s.1
    rw [inf_idem]
  · show (s ⊓ (t ⊔ u)).1 = (s ⊓ t ⊔ s ⊓ u).1
    rw [inf_sup_left]
  · show (s ⊔ t ⊓ u).1 = ((s ⊔ t) ⊓ (s ⊔ u)).1
    rw [sup_inf_left]
  · show (s ⊔ s ⊓ t).1 = s.1
    rw [sup_inf_self]
  · show (s ⊓ (s ⊔ t)).1 = s.1
    rw [inf_sup_self]

/-- Three sets that meet at 2, none of them part of another. The first has an interval in which
nothing lies, and which the second touches without meeting it; the third ends at a float. -/
theorem boolean_laws_between_neighbours :
    ∃ a b c : IntervalSet Scalar,
      a = intervals [⟨.exclusive (.boolean false), .exclusive (.boolean true)⟩,
        .between (.int64 ⟨0, by decide, by decide⟩) (.int64 ⟨5, by decide, by decide⟩)] ∧
      b = intervals [.between (.boolean true) (.int64 ⟨3, by decide, by decide⟩)] ∧
      c = intervals [.between (.int64 ⟨2, by decide, by decide⟩)
        (.float64 (.ofBits 0x8000000000000000))] ∧
      (∀ s ∈ [a, b, c], s.contains (.int64 ⟨2, by decide, by decide⟩) = true) ∧
      a.complement.complement = a ∧ a.union a.complement = all ∧
      (a.intersect b).intersect c = a.intersect (b.intersect c) ∧
      a.intersect (b.union c) = (a.intersect b).union (a.intersect c) ∧
      a.union (b.intersect c) = (a.union b).intersect (a.union c) := by
  let a : IntervalSet Scalar :=
    intervals [⟨.exclusive (.boolean false), .exclusive (.boolean true)⟩,
      .between (.int64 ⟨0, by decide, by decide⟩) (.int64 ⟨5, by decide, by decide⟩)]
  let b : IntervalSet Scalar :=
    intervals [.between (.boolean true) (.int64 ⟨3, by decide, by decide⟩)]
  let c : IntervalSet Scalar :=
    intervals [.between (.int64 ⟨2, by decide, by decide⟩)
      (.float64 (.ofBits 0x8000000000000000))]
  have ha : a.IsNormal := by decide
  have hb : b.IsNormal := by decide
  have hc : c.IsNormal := by decide
  obtain ⟨hcompl, -, -, hall, -, -, hassoc, -, hmeet, hjoin, -⟩ := boolean_laws ha hb hc
  exact ⟨a, b, c, rfl, rfl, rfl, by decide, hcompl, hall, hassoc, hmeet, hjoin⟩

end IntervalSet

end ColumnFilter
