/-
Columns whose intervals become spans.

* `Compile.spanFilter_eq_ok`: a list of intervals compiles when its bounds are of the family of
  the column and its spans ascend, to a span or to a union of spans.
* `Compile.test_spanFilter`: the filter tests a value as the intervals do, when their bounds are
  read in that family and the conversion keeps their order.
* `Compile.exists_spanFilter`: separated intervals compile.
-/
import ColumnFilter.Proofs.Compile.Checks
import ColumnFilter.Proofs.Filter.Spans

namespace ColumnFilter.Compile

/-! ### Spans of intervals -/

section Conversion

variable {α : Type} [SpanValue α] {type : SqlType} {extract : Scalar → Option α}
  {i : Interval Scalar} {list : List (Interval Scalar)} {n : Bool}

theorem spanOf_eq_ok {s : Span α} :
    spanOf type extract n i = .ok s ↔ ∃ j : Interval α, i.Reads extract j ∧ j.toSpan n = s := by
  simp only [spanOf, bind_eq_ok, pure_eq_ok, traverse_payload]
  constructor
  · rintro ⟨l, hl, u, hu, hs⟩
    exact ⟨⟨l, u⟩, ⟨hl, hu⟩, hs⟩
  · rintro ⟨j, hj, hs⟩
    exact ⟨j.lower, hj.lower, j.upper, hj.upper, hs⟩

theorem mapM_spanOf_eq_ok {spans : List (Span α)} :
    list.mapM (spanOf type extract n) = .ok spans ↔
      ∃ converted : List (Interval α),
        List.Forall₂ (Interval.Reads extract) list converted ∧
          converted.map (·.toSpan n) = spans := by
  induction list generalizing spans with
  | nil =>
    simp only [List.mapM_nil, pure_eq_ok]
    constructor
    · rintro rfl
      exact ⟨[], .nil, rfl⟩
    · rintro ⟨_, ⟨⟩, hs⟩
      exact hs
  | cons i list ih =>
    simp only [List.mapM_cons, bind_eq_ok, pure_eq_ok, spanOf_eq_ok, ih]
    constructor
    · rintro ⟨_, ⟨j, hj, rfl⟩, _, ⟨converted, hconverted, rfl⟩, rfl⟩
      exact ⟨j :: converted, .cons hj hconverted, rfl⟩
    · rintro ⟨_, h, rfl⟩
      cases h with
      | cons hj hconverted => exact ⟨_, ⟨_, hj, rfl⟩, _, ⟨_, hconverted, rfl⟩, rfl⟩

end Conversion

/-! ### Filters of spans -/

theorem intervalAt_eq_ok {list : List (Interval Scalar)} {index : Nat} {i : Interval Scalar} :
    intervalAt list index = .ok i ↔ list[index]? = some i := by
  rw [intervalAt]
  cases list[index]? <;> simp

section Filters

variable {α : Type} [Ord α]

/-- The check of spans is one of their order; the intervals are there for the error. -/
theorem checkSpansFrom_eq_ok {list : List (Interval Scalar)} {index : Nat} {spans : List (Span α)} :
    checkSpansFrom list index spans = .ok () ↔ Span.areAscending spans = true := by
  fun_induction checkSpansFrom list index spans with
  | case1 index s t rest hst ih => rw [ih, Span.areAscending, hst, Bool.true_and]
  | case2 index s t rest hst =>
    -- whether the intervals are found or not, there is an error
    simp only [Span.areAscending, hst, Bool.false_and, bind_eq_ok]
    constructor
    · rintro ⟨_, -, _, -, h⟩
      cases h
    · intro h
      cases h
  | case3 spans index h =>
    rcases spans with - | ⟨s, - | ⟨t, rest⟩⟩
    · simp [Span.areAscending]
    · simp [Span.areAscending]
    · exact absurd rfl (h s t rest)

variable [SpanValue α] {F : SpanFamily α} {type : SqlType} {extract : Scalar → Option α}
  {list : List (Interval Scalar)} {n : Bool} {f : Filter}

/-- A list compiles to one span, or to a union of spans that ascend. A span has the flag of the
domain; in a union the union has it and the spans do not. -/
theorem spanFilter_eq_ok :
    spanFilter F.span type extract list n = .ok f ↔
      ∃ converted : List (Interval α),
        List.Forall₂ (Interval.Reads extract) list converted ∧
          ((∃ j, converted = [j] ∧ f = .span (F.span (j.toSpan n))) ∨
            ∃ u : SpanList α, u.members.toList = converted.map (·.toSpan false) ∧
              u.nullAllowed = n ∧ f = .spanUnion (F.union u)) := by
  have hcleared (converted : List (Interval α)) :
      (converted.map (·.toSpan n)).map (·.withNullAllowed false) =
        converted.map (·.toSpan false) := by
    rw [List.map_map]
    rfl
  simp only [spanFilter, bind_eq_ok, mapM_spanOf_eq_ok]
  constructor
  · rintro ⟨_, ⟨converted, hreads, rfl⟩, h⟩
    refine ⟨converted, hreads, ?_⟩
    split at h
    · rename_i t hspans
      obtain ⟨j, rfl, rfl⟩ := List.map_eq_singleton_iff.mp hspans
      cases h
      exact .inl ⟨j, rfl, rfl⟩
    · simp only [bind_eq_ok, pure_eq_ok, fromParts_eq_ok, F.make_eq_ok] at h
      obtain ⟨_, -, _, ⟨u, hu, hnull, rfl⟩, rfl⟩ := h
      exact .inr ⟨u, hu.trans (hcleared converted), hnull, rfl⟩
  · rintro ⟨converted, hreads, ⟨j, rfl, rfl⟩ | ⟨u, hu, hnull, rfl⟩⟩
    · exact ⟨_, ⟨[j], hreads, rfl⟩, rfl⟩
    · refine ⟨_, ⟨converted, hreads, rfl⟩, ?_⟩
      rw [← hcleared] at hu
      -- a union has two spans, so the list is not compiled to one
      have hsize : 2 ≤ u.members.toList.length := u.two_le_size
      rw [hu, List.length_map] at hsize
      split
      · rename_i t hspans
        rw [hspans] at hsize
        exact absurd hsize (by simp)
      · have hascending : Span.areAscending (converted.map (·.toSpan n)) = true := by
          rw [← Span.areAscending_map_withNullAllowed, ← hu]
          exact u.ordered
        simp only [bind_eq_ok, pure_eq_ok, fromParts_eq_ok, F.make_eq_ok]
        exact ⟨(), checkSpansFrom_eq_ok.mpr hascending, _, ⟨u, hu, hnull, rfl⟩, rfl⟩

/-- Spans in ascending order make a filter, however many they are. -/
theorem exists_spanFilter_of_areAscending {converted : List (Interval α)}
    (hreads : List.Forall₂ (Interval.Reads extract) list converted) (hne : list ≠ [])
    (h : Span.areAscending (converted.map (·.toSpan n)) = true) :
    ∃ f, spanFilter F.span type extract list n = .ok f := by
  have hordered : Span.areAscending (converted.map (·.toSpan false)) = true := by
    rw [← Span.areAscending_map_withNullAllowed (n := false), List.map_map] at h
    exact h
  -- one span stands alone; of more, the union takes the order that was checked
  match converted, hreads, hordered with
  | [], hreads, _ =>
    cases hreads
    exact absurd rfl hne
  | [j], hreads, _ => exact ⟨_, spanFilter_eq_ok.mpr ⟨_, hreads, .inl ⟨j, rfl, rfl⟩⟩⟩
  | i :: j :: rest, hreads, hordered =>
    let u : SpanList α := ⟨((i :: j :: rest).map (·.toSpan false)).toArray, n, by simp, hordered,
      List.forall_mem_map.mpr fun _ _ => rfl⟩
    exact ⟨_, spanFilter_eq_ok.mpr ⟨_, hreads, .inr ⟨u, rfl, rfl, rfl⟩⟩⟩

end Filters

/-! ### Correctness -/

section Correctness

variable {α β L : Type} [LinearOrder α] [SpanValue α] [LinearOrder L] (F : SpanFamily α)
  {type : SqlType} {extract : Scalar → Option α} {list : List (Interval Scalar)}
  {P : Scalar → Prop} {proper : α → Prop} {level : α → L} {r : Reading Scalar β} {image : α → β}
  {n : Bool} {f : Filter}

/-- What compiles to spans is separated after the conversion, checked before or not. -/
theorem separated_of_spanFilter (hk : KeepsOrder extract P) (hadm : Admissible type list)
    (hP : ∀ i ∈ list, ∀ a ∈ i.endValues, P a)
    (h : spanFilter F.span type extract list n = .ok f) :
    ∃ converted : List (Interval α),
      List.Forall₂ (Interval.Reads extract) list converted ∧ Separated converted := by
  obtain ⟨converted, hreads, hs⟩ := spanFilter_eq_ok.mp h
  have hne := nonempty_of_reads hk hP hreads fun i hi => (hadm i hi).2
  refine ⟨converted, hreads, ?_⟩
  rcases hs with ⟨j, rfl, -⟩ | ⟨u, hu, -⟩
  · exact ⟨hne, .singleton j⟩
  · refine separated_iff.mpr ⟨hne, ?_⟩
    have hordered := u.ordered
    rw [hu, Span.areAscending_eq_true, List.isChain_map] at hordered
    simpa only [F.toInterval_toSpan] using hordered

/-- The filter tests values as the intervals do, bounds and values being read in the family. -/
theorem test_spanFilter (hg : Graded SpanValue.lt SpanValue.le proper level)
    (hk : KeepsOrder extract P) (hr : r.Through extract image SpanValue.lt SpanValue.le)
    (hadm : Admissible type list) (hP : ∀ i ∈ list, ∀ a ∈ i.endValues, P a)
    (hproper : ∀ i ∈ list, ∀ a ∈ i.endValues, ∀ c, extract a = some c → proper c)
    (h : spanFilter F.span type extract list n = .ok f) (v : α) :
    f.test? (F.probe v) = some (list.any (·.admitsBy r (image v))) := by
  obtain ⟨converted, hreads, hs⟩ := spanFilter_eq_ok.mp h
  rw [any_admitsBy_of_reads hreads hr]
  have hcontains (j : Interval α) (n : Bool) :
      (j.toSpan n).contains v = j.admitsBy (.plain SpanValue.lt SpanValue.le) v := by
    rw [Span.contains_eq, F.toInterval_toSpan]
  rcases hs with ⟨j, rfl, rfl⟩ | ⟨u, hu, -, rfl⟩
  · rw [F.test_span, hcontains]
    simp
  · have hne := nonempty_of_reads hk hP hreads fun i hi => (hadm i hi).2
    have hproper' := forall_endValues_of_reads hreads hproper
    -- the search finds the span that holds the value, since the spans have room and ascend
    rw [F.test_union, u.contains_eq_any hg, hu, List.any_map]
    · simp only [Function.comp_def, hcontains]
    · rw [hu]
      refine List.forall_mem_map.mpr fun j hj => ?_
      rw [F.toInterval_toSpan]
      exact hne j hj
    · rw [hu]
      refine List.forall_mem_map.mpr fun j hj => ?_
      rw [F.toInterval_toSpan]
      exact hproper' j hj

/-- Separated intervals compile. -/
theorem exists_spanFilter (hk : KeepsOrder extract P)
    (hextract : ∀ a, P a → (extract a).isSome = true)
    (hP : ∀ i ∈ list, ∀ a ∈ i.endValues, P a) (hne : list ≠ [])
    (hs : Separated list) : ∃ f, spanFilter F.span type extract list n = .ok f := by
  obtain ⟨converted, hreads⟩ := exists_forall₂_reads fun i hi a ha => hextract a (hP i hi a ha)
  have hconverted := (separated_iff.mp (Separated.of_reads hk hP hreads hs)).2
  refine exists_spanFilter_of_areAscending hreads hne ?_
  rw [Span.areAscending_eq_true, List.isChain_map]
  simpa only [F.toInterval_toSpan] using hconverted

end Correctness

end ColumnFilter.Compile
