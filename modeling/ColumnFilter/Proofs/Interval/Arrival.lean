/-
Normalization does not depend on how intervals arrive.

The normal form of a list is determined by what the list covers (`IntervalSet.ofIntervals_congr`).
So it does not change

* when the intervals come in another order (`IntervalSet.ofIntervals_perm`);
* when they come twice (`IntervalSet.ofIntervals_append_self`);
* when some of them are merged first (`IntervalSet.ofIntervals_toList_append`).

Unions of sets in normal form have the same freedom: `IntervalSet.arrival_laws` collects all of it.
-/
import ColumnFilter.Proofs.Interval.Boolean

namespace ColumnFilter

section Lists

variable {α : Type} [LinearOrder α] {l r : List (Interval α)} {p : Cut α}

theorem coveredBy_perm (h : l.Perm r) : CoveredBy l p ↔ CoveredBy r p := by
  simp only [CoveredBy, h.mem_iff]

end Lists

namespace IntervalSet

variable {α : Type} [LinearOrder α] {l r : List (Interval α)} {s : IntervalSet α}

/-- Lists that cover the same cuts have the same normal form. -/
theorem ofIntervals_congr (h : ∀ p, CoveredBy l p ↔ CoveredBy r p) :
    ofIntervals l = ofIntervals r := by
  refine (isNormal_ofIntervals l).ext (isNormal_ofIntervals r) fun p => ?_
  rw [covers_ofIntervals, covers_ofIntervals, h p]

theorem ofIntervals_perm (h : l.Perm r) : ofIntervals l = ofIntervals r :=
  ofIntervals_congr fun _ => coveredBy_perm h

theorem ofIntervals_append_self (l : List (Interval α)) : ofIntervals (l ++ l) = ofIntervals l := by
  refine ofIntervals_congr fun p => ?_
  rw [coveredBy_append, or_self]

/-- The intervals of a normal form stand for the list that it comes from. -/
theorem ofIntervals_toList_append (l r : List (Interval α)) :
    ofIntervals ((ofIntervals l).toList ++ r) = ofIntervals (l ++ r) := by
  refine ofIntervals_congr fun p => ?_
  have hl : CoveredBy (ofIntervals l).toList p ↔ CoveredBy l p := covers_ofIntervals
  rw [coveredBy_append, coveredBy_append, hl]

/-- A set in normal form is the normal form of its intervals. -/
theorem IsNormal.ofIntervals_toList (h : s.IsNormal) : ofIntervals s.toList = s :=
  (isNormal_ofIntervals _).ext h fun _ => covers_ofIntervals

/-- **Neither the order nor the repetition nor the batching of intervals matters** to their normal
form, or to a union of sets in normal form. -/
theorem arrival_laws :
    (∀ l r : List (Interval α), r.Perm l → ofIntervals r = ofIntervals l) ∧
      (∀ l : List (Interval α), ofIntervals (l ++ l) = ofIntervals l) ∧
      (∀ l r : List (Interval α),
        ofIntervals ((ofIntervals l).toList ++ r) = ofIntervals (l ++ r)) ∧
      ∀ a b c : IntervalSet α, a.IsNormal → b.IsNormal → c.IsNormal →
        a.union b = b.union a ∧ (a.union b).union c = a.union (b.union c) ∧ a.union a = a ∧
          ofIntervals a.toList = a := by
  refine ⟨fun _ _ => ofIntervals_perm, ofIntervals_append_self, ofIntervals_toList_append, ?_⟩
  intro a b c ha hb hc
  let s : NormalSet α := ⟨a, ha⟩
  let t : NormalSet α := ⟨b, hb⟩
  let u : NormalSet α := ⟨c, hc⟩
  refine ⟨?_, ?_, ?_, ha.ofIntervals_toList⟩
  · show (s ⊔ t).1 = (t ⊔ s).1
    rw [sup_comm]
  · show (s ⊔ t ⊔ u).1 = (s ⊔ (t ⊔ u)).1
    rw [sup_assoc]
  · show (s ⊔ s).1 = s.1
    rw [sup_idem]

/-- Two intervals with one start, after an empty one of another kind, and sets of an interval
each. -/
theorem arrival_laws_one_start :
    [Interval.mk (.inclusive (Scalar.boolean false)) (.exclusive (.boolean true)),
        .between (.boolean false) (.boolean true),
        .mk (.exclusive (.utf8 "a")) (.inclusive (.utf8 "a"))].reverse.Perm
      [Interval.mk (.inclusive (Scalar.boolean false)) (.exclusive (.boolean true)),
        .between (.boolean false) (.boolean true),
        .mk (.exclusive (.utf8 "a")) (.inclusive (.utf8 "a"))] ∧
    ofIntervals [Interval.mk (.inclusive (Scalar.boolean false)) (.exclusive (.boolean true)),
        .between (.boolean false) (.boolean true),
        .mk (.exclusive (.utf8 "a")) (.inclusive (.utf8 "a"))].reverse
      = ofIntervals [Interval.mk (.inclusive (Scalar.boolean false)) (.exclusive (.boolean true)),
        .between (.boolean false) (.boolean true),
        .mk (.exclusive (.utf8 "a")) (.inclusive (.utf8 "a"))] ∧
    (intervals [Interval.below (Scalar.boolean true)]).union (intervals [.above (.utf8 "a")])
      = (intervals [.above (.utf8 "a")]).union (intervals [.below (.boolean true)]) := by
  obtain ⟨hperm, -, -, hunion⟩ := arrival_laws (α := Scalar)
  have hbelow : (intervals [Interval.below (Scalar.boolean true)]).IsNormal := by decide
  have habove : (intervals [Interval.above (Scalar.utf8 "a")]).IsNormal := by decide
  have hreverse := List.reverse_perm
    [Interval.mk (.inclusive (Scalar.boolean false)) (.exclusive (.boolean true)),
      .between (.boolean false) (.boolean true),
      .mk (.exclusive (.utf8 "a")) (.inclusive (.utf8 "a"))]
  exact ⟨hreverse, hperm _ _ hreverse, (hunion _ _ .none hbelow habove trivial).1⟩

end IntervalSet

end ColumnFilter
