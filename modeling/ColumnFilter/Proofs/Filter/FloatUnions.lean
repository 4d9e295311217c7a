/-
Unions over floats: when the search agrees with a scan.

The members of a union are in order by the total order, and a number is held against their ends
by the comparison of numbers, in which the two zeros are equal and a NaN compares with nothing.
Where the members whose lower end admits a value come first, the last of them is tested for all.

* `Ieee.zeros_of_gap`: a number is admitted on both sides of a gap only if it is a zero and the
  gap lies between the zeros. So the last member has the last word on every number but the zeros.
* `Filter.test_float_union`: a union passes a value exactly when one of its members does, except
  that it refuses the zeros if a member starts at the positive zero and ends at a NaN
  (`Interval.hidesZeros`). That member is found for both zeros, and holds neither.
* `Filter.test_float_union_hidden_zero` is a union which refuses a zero that its first member
  holds.
-/
import ColumnFilter.Proofs.Filter.OrderedUnions
import ColumnFilter.Proofs.Ieee.Comparison

namespace ColumnFilter

/-! ### Zeros -/

namespace Ieee

variable {f : FloatFormat} {x v : Ieee f} {upper lower : Endpoint (Ieee f)}

theorem isZero_of_level (h : x.level = 0) : x.isZero = true := by
  rw [level] at h
  rw [isZero, beq_iff_eq]
  split at h <;> omega

theorem isNaN_of_isZero (h : x.isZero = true) : x.isNaN = false := by
  have hinfinity : 0 ≤ f.infinity := Nat.zero_le _
  rw [isZero, beq_iff_eq] at h
  rw [isNaN, h, decide_eq_false_iff_not]
  omega

theorem negative_of_zero_le (h : zero false ≤ x) : x.negative = false := by
  have hrank := le_iff_rank.mp h
  rw [← Bool.not_eq_true]
  intro hneg
  simp only [rank, zero, hneg, if_true, Bool.false_eq_true, if_false] at hrank
  omega

/-- A number on the inner side of two ends with a gap between them is a zero, and the gap lies
between the zeros. -/
theorem zeros_of_gap (h : upper.upperCut < lower.lowerCut)
    (hu : upper.admitsBelowBy (.plain lt le) v = true)
    (hl : lower.admitsAboveBy (.plain lt le) v = true) :
    v.isZero = true ∧ lower = .inclusive (zero false) := by
  obtain ⟨-, hu⟩ := graded.admitsBelowBy_iff.mp hu
  obtain ⟨-, hl⟩ := graded.admitsAboveBy_iff.mp hl
  have hlevel := hl.trans_lt hu
  cases upper with
  | unbounded => exact absurd h (Cut.not_top_lt _)
  | exclusive b =>
    -- levels follow the order, so no number is below `b` and beyond what comes after it
    cases lower with
    | unbounded => exact absurd h (Cut.not_lt_bottom _)
    | inclusive c =>
      exact absurd (Cut.before_lt_before.mp hlevel)
        (graded.level_mono (Cut.before_lt_before.mp h).le).not_gt
    | exclusive c =>
      exact absurd (Cut.after_lt_before.mp hlevel)
        (graded.level_mono (Cut.before_lt_after.mp h)).not_gt
  | inclusive b =>
    cases lower with
    | unbounded => exact absurd h (Cut.not_lt_bottom _)
    | inclusive c =>
      obtain ⟨rfl, rfl⟩ :=
        zeros_of_lt (Cut.after_lt_before.mp h) (Cut.before_lt_after.mp hlevel)
      have hlow := Cut.before_le_before.mp hl
      have hhigh := Cut.before_lt_after.mp hu
      rw [level_zero] at hlow hhigh
      exact ⟨isZero_of_level (le_antisymm hhigh hlow), rfl⟩
    | exclusive c =>
      exact absurd (Cut.after_lt_after.mp hlevel)
        (graded.level_mono (Cut.after_lt_after.mp h).le).not_gt

end Ieee

/-! ### Members that hide the zeros -/

/-- Whether an interval starts at the positive zero, which it includes, and ends at a NaN: both
zeros pass its lower end, and no number passes its upper one. -/
def Interval.hidesZeros {f : FloatFormat} (i : Interval (Ieee f)) : Bool :=
  i.lower == .inclusive (.zero false) && i.upper.value?.any (·.isNaN)

namespace Interval

variable {f : FloatFormat} {i j : Interval (Ieee f)} {v : Ieee f}

theorem hidesZeros_iff : i.hidesZeros = true ↔
    i.lower = .inclusive (.zero false) ∧ ∃ a ∈ i.upper.value?, a.isNaN = true := by
  simp [hidesZeros, Option.any_eq_true]

/-- A member leaves a number to a later one that admits it, unless that one hides the zeros. -/
theorem admitsBy_of_gap (hj : j.isEmpty = false) (hij : i.upperCut < j.lowerCut)
    (hshown : ¬ (v.isZero = true ∧ j.hidesZeros = true))
    (hv : i.admitsBy (.plain Ieee.lt Ieee.le) v = true)
    (hlower : j.lower.admitsAboveBy (.plain Ieee.lt Ieee.le) v = true) :
    j.admitsBy (.plain Ieee.lt Ieee.le) v = true := by
  have hupper := (Bool.and_eq_true_iff.mp hv).2
  refine Bool.and_eq_true_iff.mpr ⟨hlower, ?_⟩
  refine admitsBelowBy_of_gap Ieee.graded hj hij (fun a ha => ?_) hupper
  -- only the zeros pass both the end of the first and the start of the second
  rw [← Bool.not_eq_true]
  intro hnan
  obtain ⟨hzero, hstart⟩ := Ieee.zeros_of_gap hij hupper hlower
  exact hshown ⟨hzero, hidesZeros_iff.mpr ⟨hstart, a, ha, hnan⟩⟩

theorem admitsAboveBy_of_hidesZeros (h : i.hidesZeros = true) (hv : v.isZero = true) :
    i.lower.admitsAboveBy (.plain Ieee.lt Ieee.le) v = true := by
  rw [Ieee.graded.admitsAboveBy_iff, (hidesZeros_iff.mp h).1]
  refine ⟨fun a ha => ?_, ?_⟩
  · cases ha
    exact ⟨Ieee.isNaN_of_isZero rfl, Ieee.isNaN_of_isZero hv⟩
  · exact Cut.before_le_before.mpr (Ieee.level_of_isZero hv).ge

theorem admitsBy_of_hidesZeros (h : i.hidesZeros = true) :
    i.admitsBy (.plain Ieee.lt Ieee.le) v = false := by
  obtain ⟨-, a, ha, hnan⟩ := hidesZeros_iff.mp h
  rw [← Bool.not_eq_true]
  intro hv
  have hupper := (Ieee.graded.admitsBelowBy_iff.mp (Bool.and_eq_true_iff.mp hv).2).1 a ha
  rw [hnan] at hupper
  cases hupper.1

/-- What comes after an interval that hides the zeros starts at a NaN and admits nothing. -/
theorem admitsAboveBy_of_gap_of_hidesZeros (hi : i.isEmpty = false) (h : i.hidesZeros = true)
    (hij : i.upperCut < j.lowerCut) :
    j.lower.admitsAboveBy (.plain Ieee.lt Ieee.le) v = false := by
  obtain ⟨hstart, a, ha, hnan⟩ := hidesZeros_iff.mp h
  have hpos : Ieee.zero false ≤ a :=
    ascends_of_isEmpty_eq_false hi _ (Option.mem_def.mpr (congrArg Endpoint.value? hstart)) a ha
  rw [← Bool.not_eq_true]
  intro hlower
  obtain ⟨b, hb⟩ := Endpoint.exists_value (Endpoint.isUnbounded_of_lt_lowerCut hij)
  have hbnan := Ieee.isNaN_of_le (value_le_of_gap hij ha hb) (Ieee.negative_of_zero_le hpos) hnan
  rw [((Ieee.graded.admitsAboveBy_iff.mp hlower).1 b hb).1] at hbnan
  cases hbnan

end Interval

/-! ### Unions -/

section Unions

variable {f : FloatFormat} [SpanValue (Ieee f)] {v : Ieee f}

/-- Where the members that admit a value below come first, the last of them holds it if any member
does, but for a member that hides the zeros. -/
theorem SpanList.contains_eq_any_of_partitioned (u : SpanList (Ieee f))
    (hlt : (SpanValue.lt : Ieee f → Ieee f → Bool) = Ieee.lt)
    (hle : (SpanValue.le : Ieee f → Ieee f → Bool) = Ieee.le)
    (hne : ∀ s ∈ u.members.toList, s.toInterval.isEmpty = false)
    (hp : Bisect.Partitioned (fun s => s.lower.admitsAbove v) u.members) :
    u.contains v = (u.members.toList.any (·.contains v) &&
      !(v.isZero && u.members.toList.any (·.toInterval.hidesZeros))) := by
  have habove (s : Span (Ieee f)) : s.lower.admitsAbove v =
      s.toInterval.lower.admitsAboveBy (.plain Ieee.lt Ieee.le) v := by
    rw [Limit.admitsAbove_eq, hlt, hle]
    rfl
  have hcontains (s : Span (Ieee f)) : s.contains v =
      s.toInterval.admitsBy (.plain Ieee.lt Ieee.le) v := by
    rw [Span.contains_eq, hlt, hle]
  have hgap := u.pairwise_gap fun s hs => Interval.ascends_of_isEmpty_eq_false (hne s hs)
  by_cases hhide : v.isZero = true ∧ ∃ s ∈ u.members.toList, s.toInterval.hidesZeros = true
  · -- the member that hides the zeros is the last that admits them
    obtain ⟨hzero, s, hs, hides⟩ := hhide
    have hlast : Bisect.last? (fun s => s.lower.admitsAbove v) u.members = some s := by
      refine Bisect.last?_eq_some_of_pairwise hp (Array.mem_toList_iff.mp hs) ?_ ?_
      · rw [habove]
        exact Interval.admitsAboveBy_of_hidesZeros hides hzero
      · refine hgap.imp fun {t t'} htt ht => ?_
        subst ht
        rw [habove]
        exact Interval.admitsAboveBy_of_gap_of_hidesZeros (hne t hs) hides htt
    have hany : u.members.toList.any (·.toInterval.hidesZeros) = true :=
      List.any_eq_true.mpr ⟨s, hs, hides⟩
    rw [contains, searchBy, hlast, Option.any_some, hcontains, Interval.admitsBy_of_hidesZeros hides,
      hzero, hany]
    simp
  · have hshown : (v.isZero && u.members.toList.any (·.toInterval.hidesZeros)) = false := by
      rw [← Bool.not_eq_true, Bool.and_eq_true, List.any_eq_true]
      exact hhide
    rw [hshown, Bool.not_false, Bool.and_true]
    refine Bisect.any_last? hp (fun s _ hs => (Bool.and_eq_true_iff.mp hs).1) ?_
    refine hgap.imp_of_mem fun {s t} _ ht hst hlower hs => ?_
    rw [hcontains] at hs ⊢
    rw [habove] at hlower
    exact Interval.admitsBy_of_gap (hne t ht) hst (fun h => hhide ⟨h.1, t, ht, h.2⟩) hs hlower

end Unions

/-! ### Filters -/

theorem SpanFamily.test_of_make_floats {f : FloatFormat} [SpanValue (Ieee f)]
    (F : SpanFamily (Ieee f))
    (hlt : (SpanValue.lt : Ieee f → Ieee f → Bool) = Ieee.lt)
    (hle : (SpanValue.le : Ieee f → Ieee f → Bool) = Ieee.le)
    {spans : List (Span (Ieee f))} {n : Bool} {u : SpanUnion} {v : Ieee f}
    (h : SpanUnion.make (spans.map F.span) n = .ok u)
    (hne : ∀ s ∈ spans, s.toInterval.isEmpty = false)
    (hp : Bisect.Partitioned (fun s => s.lower.admitsAbove v) spans.toArray) :
    (Filter.spanUnion u).test (F.probe v) =
      .ok (spans.any (·.contains v) &&
        !(v.isZero && spans.any (·.toInterval.hidesZeros))) := by
  obtain ⟨l, hl, -, rfl⟩ := F.make_eq_ok.mp h
  have hcontains : l.contains v = (l.members.toList.any (·.contains v) &&
      !(v.isZero && l.members.toList.any (·.toInterval.hidesZeros))) := by
    refine l.contains_eq_any_of_partitioned hlt hle ?_ ?_
    · rw [hl]
      exact List.forall_mem_map.mpr hne
    · rw [Bisect.Partitioned, hl]
      exact List.pairwise_map.mpr hp
  -- the members are the given spans but for their flags
  rw [Filter.test, F.test_union, hcontains, hl, List.any_map, List.any_map]
  rfl

/-- Over floats a union passes a value, if the members that admit it below come first, exactly when
one of its members does; but it refuses both zeros if a member hides them. -/
theorem Filter.test_float_union (nullAllowed : Bool) :
    (∀ (spans : List (Span Double)) (u : SpanUnion) (v : Double),
      SpanUnion.make (spans.map .double) nullAllowed = .ok u →
      (∀ s ∈ spans, s.toInterval.isEmpty = false) →
      Bisect.Partitioned (fun s => s.lower.admitsAbove v) spans.toArray →
      (Filter.spanUnion u).test (.double v) =
        .ok (spans.any (·.contains v) &&
          !(v.isZero && spans.any (·.toInterval.hidesZeros)))) ∧
    (∀ (spans : List (Span Single)) (u : SpanUnion) (v : Single),
      SpanUnion.make (spans.map .real) nullAllowed = .ok u →
      (∀ s ∈ spans, s.toInterval.isEmpty = false) →
      Bisect.Partitioned (fun s => s.lower.admitsAbove v) spans.toArray →
      (Filter.spanUnion u).test (.real v) =
        .ok (spans.any (·.contains v) &&
          !(v.isZero && spans.any (·.toInterval.hidesZeros)))) := by
  constructor
  · intro spans u v h hne hp
    exact SpanFamily.double.test_of_make_floats rfl rfl h hne hp
  · intro spans u v h hne hp
    exact SpanFamily.real.test_of_make_floats rfl rfl h hne hp

/-- Both members hold both zeros, and the search settles for the second. A NaN passes neither. -/
theorem Filter.test_float_union_zeros :
    (∃ (spans : List (Span Double)) (u : SpanUnion),
      spans = [(Interval.upTo (.zero true)).toSpan true,
        (Interval.startingAt (.zero false)).toSpan true] ∧
      SpanUnion.make (spans.map .double) false = .ok u ∧
      (Filter.spanUnion u).test (.double (.zero true)) = .ok true ∧
      (Filter.spanUnion u).test (.double (.ofBits 0x7ff8000000000000)) = .ok false) ∧
    (∃ (spans : List (Span Single)) (u : SpanUnion),
      spans = [(Interval.point (.zero true)).toSpan false,
        (Interval.startingAt (.zero false)).toSpan false] ∧
      SpanUnion.make (spans.map .real) false = .ok u ∧
      (Filter.spanUnion u).test (.real (.zero true)) = .ok true) := by
  -- the two zeros part both unions, and hide no member
  obtain ⟨hdouble, hreal⟩ := Filter.test_float_union false
  refine ⟨⟨_, _, rfl, rfl, ?_, ?_⟩, _, _, rfl, rfl, ?_⟩
  · exact hdouble [(Interval.upTo (.zero true)).toSpan true,
      (Interval.startingAt (.zero false)).toSpan true] _ (.zero true) rfl (by decide)
      (by rw [Bisect.Partitioned]; decide)
  · exact hdouble [(Interval.upTo (.zero true)).toSpan true,
      (Interval.startingAt (.zero false)).toSpan true] _ (.ofBits 0x7ff8000000000000) rfl
      (by decide)
      (by rw [Bisect.Partitioned]; decide)
  · exact hreal [(Interval.point (.zero true)).toSpan false,
      (Interval.startingAt (.zero false)).toSpan false] _ (.zero true) rfl (by decide)
      (by rw [Bisect.Partitioned]; decide)

/-- Up to `-0` and from `0` to a NaN: the first member holds `0`, both members admit it below, and
the search refuses it, since it tests the second. -/
theorem Filter.test_float_union_hidden_zero :
    ∃ (spans : List (Span Double)) (u : SpanUnion) (v : Double),
      spans = [(Interval.between (.ofBits 0xbff0000000000000) (.zero true)).toSpan false,
        (Interval.between (.zero false) (.ofBits 0x7ff8000000000000)).toSpan false] ∧
      v = .zero false ∧
      SpanUnion.make (spans.map .double) false = .ok u ∧
      (∀ s ∈ spans, s.toInterval.isEmpty = false) ∧
      Bisect.Partitioned (fun s => s.lower.admitsAbove v) spans.toArray ∧
      spans.any (·.contains v) = true ∧
      (Filter.spanUnion u).test (.double v) = .ok false := by
  refine ⟨_, _, _, rfl, rfl, rfl, by decide, ?_, by decide, by decide +kernel⟩
  rw [Bisect.Partitioned]
  decide

end ColumnFilter
