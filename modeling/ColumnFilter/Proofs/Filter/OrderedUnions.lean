/-
Unions over ordered values: the search agrees with a scan.

Of a union only the last member whose lower end admits a value is tested. Integers, wide decimals
and byte strings are held against ends by the order that puts the members in order, and then

* `SpanList.contains_eq_any_of_ascends`: that one test finds what a test of all the members finds,
  as long as no member starts beyond its own end;
* `Filter.test_ordered_union`: so do the filters over the three kinds of values.

A member may be empty, when it starts and ends at one value that it leaves out. It then orders
its neighbours all the same (`Interval.lowerCut_le_of_gap`), which is what carries a gap between
neighbours over to the whole list.
-/
import ColumnFilter.Proofs.Filter.Integers
import ColumnFilter.Proofs.Filter.Spans

namespace ColumnFilter

/-! ### Spans -/

/-- Whether a span is bounded on both sides, by a greater value below than above. -/
def Span.isInverted {α : Type} [Ord α] (s : Span α) : Bool :=
  !s.lower.unbounded && !s.upper.unbounded && compare s.lower.value s.upper.value == .gt

theorem Span.ascends_iff {α : Type} [LinearOrder α] {s : Span α} :
    s.toInterval.Ascends ↔ s.isInverted = false := by
  obtain ⟨⟨a, lower, _ | _⟩, ⟨b, upper, _ | _⟩, _⟩ := s <;> cases lower <;> cases upper <;>
    simp [Interval.Ascends, toInterval, Limit.toEndpoint, Endpoint.value?, isInverted,
      compare_gt_iff_gt]

theorem Graded.plain_eq_ordered {α : Type} [LinearOrder α] {lt le : α → α → Bool}
    (hg : Graded lt le (fun _ => True) id) : Reading.plain lt le = .ordered α := by
  have hlt : lt = fun a b => decide (a < b) := by
    funext a b
    rw [Bool.eq_iff_iff, hg.lt_iff]
    simp
  have hle : le = fun a b => decide (a ≤ b) := by
    funext a b
    rw [Bool.eq_iff_iff, hg.le_iff]
    simp
  rw [hlt, hle]
  rfl

section Ordered

variable {α : Type} [LinearOrder α] [SpanValue α] {l : Limit α} {v : α}

theorem Limit.admitsAbove_iff (hg : Graded SpanValue.lt SpanValue.le (fun _ : α => True) id) :
    l.admitsAbove v = true ↔ l.toEndpoint.lowerCut ≤ .before v := by
  rw [admitsAbove_eq, hg.plain_eq_ordered, Endpoint.admitsAboveBy_ordered,
    Endpoint.admitsAbove_iff]

theorem Limit.admitsBelow_iff (hg : Graded SpanValue.lt SpanValue.le (fun _ : α => True) id) :
    l.admitsBelow v = true ↔ .before v < l.toEndpoint.upperCut := by
  rw [admitsBelow_eq, hg.plain_eq_ordered, Endpoint.admitsBelowBy_ordered,
    Endpoint.admitsBelow_iff]

/-- Under the order of the values, the last member whose lower limit admits a value holds it if
any member does. -/
theorem SpanList.contains_eq_any_of_ascends
    (hg : Graded SpanValue.lt SpanValue.le (fun _ : α => True) id) (u : SpanList α)
    (h : ∀ s ∈ u.members.toList, s.toInterval.Ascends) (v : α) :
    u.contains v = u.members.toList.any (·.contains v) := by
  have hgap := u.pairwise_gap h
  refine Bisect.any_last? (hgap.imp_of_mem fun {s t} hs _ hst ht => ?_)
    (fun s _ hs => (Bool.and_eq_true_iff.mp hs).1) (hgap.imp fun {s t} hst ht hs => ?_)
  · rw [Limit.admitsAbove_iff hg] at ht ⊢
    exact (Interval.lowerCut_le_of_gap (h s hs) hst).trans ht
  · -- no value is both before the end of one member and after the start of a later one
    have hupper := (Limit.admitsBelow_iff hg).mp (Bool.and_eq_true_iff.mp hs).2
    have hlower := (Limit.admitsAbove_iff hg).mp ht
    exact absurd hst (hlower.trans hupper.le).not_gt

end Ordered

/-! ### Filters -/

theorem SpanFamily.test_of_make {α : Type} [LinearOrder α] [SpanValue α] (F : SpanFamily α)
    (hg : Graded SpanValue.lt SpanValue.le (fun _ : α => True) id) {spans : List (Span α)}
    {n : Bool} {u : SpanUnion} (h : SpanUnion.make (spans.map F.span) n = .ok u)
    (hspans : ∀ s ∈ spans, s.isInverted = false) (v : α) :
    (Filter.spanUnion u).test (F.probe v) = .ok (spans.any (·.contains v)) := by
  obtain ⟨l, hl, -, rfl⟩ := F.make_eq_ok.mp h
  have hascends : ∀ s ∈ l.members.toList, s.toInterval.Ascends := by
    rw [hl]
    exact List.forall_mem_map.mpr fun s hs => Span.ascends_iff.mpr (hspans s hs)
  rw [Filter.test, F.test_union, l.contains_eq_any_of_ascends hg hascends, hl, List.any_map]
  rfl

/-- A union passes a value exactly when one of its members does: of integer ranges always, and of
spans over wide decimals or byte strings if none of them is inverted. -/
theorem Filter.test_ordered_union (nullAllowed : Bool) :
    (∀ (ranges : List IntegerRange) (u : IntegerUnion),
      IntegerUnion.make ranges nullAllowed = .ok u →
      ∀ v, (Filter.integerUnion u).test (.integer v) = .ok (ranges.any (·.contains v))) ∧
    (∀ (spans : List (Span Hugeint)) (u : SpanUnion),
      SpanUnion.make (spans.map .decimal) nullAllowed = .ok u →
      (∀ s ∈ spans, s.isInverted = false) →
      ∀ v, (Filter.spanUnion u).test (.decimal v) = .ok (spans.any (·.contains v))) ∧
    (∀ (spans : List (Span Bytes)) (u : SpanUnion),
      SpanUnion.make (spans.map .bytes) nullAllowed = .ok u →
      (∀ s ∈ spans, s.isInverted = false) →
      ∀ v, (Filter.spanUnion u).test (.bytes v) = .ok (spans.any (·.containsBytes v))) := by
  refine ⟨fun ranges u h v => ?_, fun spans u h hspans v => ?_, fun spans u h hspans v => ?_⟩
  · exact congrArg Except.ok (IntegerUnion.contains_of_make h v)
  · exact SpanFamily.decimal.test_of_make Hugeint.graded h hspans v
  · rw [Span.containsBytes_eq_contains]
    exact SpanFamily.bytes.test_of_make Bytes.graded h hspans v

/-- The second of the decimal spans starts and ends at `5` and holds nothing. -/
theorem Filter.test_ordered_union_empty_member :
    (∃ (ranges : List IntegerRange) (u : IntegerUnion),
      ranges = [⟨.least, ⟨1, by decide, by decide⟩, true, by decide⟩,
        ⟨⟨3, by decide, by decide⟩, .greatest, false, by decide⟩] ∧
      IntegerUnion.make ranges true = .ok u ∧
      ∀ v, (Filter.integerUnion u).test (.integer v) = .ok (ranges.any (·.contains v))) ∧
    (∃ (spans : List (Span Hugeint)) (u : SpanUnion),
      spans = [
        .ofEndpoints (.inclusive ⟨1, by decide, by decide⟩)
          (.exclusive ⟨5, by decide, by decide⟩) true,
        .ofEndpoints (.exclusive ⟨5, by decide, by decide⟩)
          (.exclusive ⟨5, by decide, by decide⟩) true,
        .ofEndpoints (.exclusive ⟨5, by decide, by decide⟩) .unbounded false] ∧
      SpanUnion.make (spans.map .decimal) true = .ok u ∧ (∀ s ∈ spans, s.isInverted = false) ∧
      ∀ v, (Filter.spanUnion u).test (.decimal v) = .ok (spans.any (·.contains v))) ∧
    (∃ (spans : List (Span Bytes)) (u : SpanUnion),
      spans = [.ofEndpoints (.inclusive ⟨[97]⟩) (.inclusive ⟨[97]⟩) true,
        .ofEndpoints (.exclusive ⟨[98]⟩) .unbounded true] ∧
      SpanUnion.make (spans.map .bytes) true = .ok u ∧ (∀ s ∈ spans, s.isInverted = false) ∧
      ∀ v, (Filter.spanUnion u).test (.bytes v) = .ok (spans.any (·.containsBytes v))) := by
  obtain ⟨hintegers, hdecimals, hbytes⟩ := Filter.test_ordered_union true
  refine ⟨⟨_, _, rfl, rfl, ?_⟩, ⟨_, _, rfl, rfl, by decide, ?_⟩, _, _, rfl, rfl, by decide, ?_⟩
  · exact hintegers _ _ rfl
  · exact hdecimals _ _ rfl (by decide)
  · exact hbytes _ _ rfl (by decide)

end ColumnFilter
