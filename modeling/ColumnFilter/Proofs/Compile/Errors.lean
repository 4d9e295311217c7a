/-
Every error of a compilation is a fault of the domain.

* `Domain.compile_error_isAbout`: a compilation ends in a filter, or in an error about bounds,
  intervals or positions of the domain's list, and never in parts of a filter that do not fit
  together.

Each kind of filter has conditions on its parts: ends in order, members enough, of one family
and in order. `Compile.eq_error_of_integerFilter`, `Compile.eq_error_of_spanFilter` and
`Compile.isAbout_of_bytesFilter` say what can go wrong before the parts are put together, and
that nothing can afterwards. Intervals are looked up by their positions, which are those of their
spans (`Compile.eq_error_of_checkSpansFrom`).
-/
import ColumnFilter.Proofs.Compile.Bytes
import ColumnFilter.Proofs.Compile.Faults
import ColumnFilter.Proofs.Compile.Integers

namespace ColumnFilter

open Compile in
/-- What an error names is found in the list that was compiled, at the position that it names.
Parts of a filter that do not fit are not about any list. -/
def CompileError.IsAbout (type : SqlType) (list : List (Interval Scalar)) : CompileError → Prop
  | typeMismatch type' a => type' = type ∧ ∃ i ∈ list, a ∈ i.endValues
  | emptyInterval n i => list[n]? = some i
  | unordered n p i => ∃ k, n = k + 1 ∧ list[k]? = some p ∧ list[k + 1]? = some i
  | integersUnordered n ends i =>
    list[n]? = some i ∧ ∃ p ∈ list.take n, integerEnds type p = .ok (some ends)
  | invalidPrecision precision => ∃ scale, type = .decimal precision scale
  | malformed _ => False
  | indexOutOfBounds _ _ => False

theorem CompileError.IsAbout.ne_malformed {type : SqlType} {list : List (Interval Scalar)}
    {e : CompileError} (h : e.IsAbout type list) (p : ShapeError) : e ≠ .malformed p := by
  rintro rfl
  exact h

theorem CompileError.IsAbout.ne_indexOutOfBounds {type : SqlType} {list : List (Interval Scalar)}
    {e : CompileError} (h : e.IsAbout type list) (count index : Nat) :
    e ≠ .indexOutOfBounds count index := by
  rintro rfl
  exact h

namespace Compile

variable {options : Options} {type : SqlType} {list : List (Interval Scalar)} {n : Bool}
  {e : CompileError}

/-! ### Checks -/

theorem FaultAt.isAbout {strict : Bool} {index : Nat} (h : FaultAt strict type list index e) :
    e.IsAbout type list := by
  obtain ⟨i, hi, hfault⟩ := h
  have hmem : i ∈ list := List.mem_of_getElem? hi
  cases hfault with
  | lower ha _ => exact ⟨rfl, i, hmem, Interval.mem_endValues.mpr (.inl ha)⟩
  | upper _ ha _ => exact ⟨rfl, i, hmem, Interval.mem_endValues.mpr (.inr ha)⟩
  | empty _ _ => exact hi
  | unordered _ _ _ hp _ =>
    cases index with
    | zero => cases hp
    | succ k => exact ⟨k, rfl, hp, hi⟩

/-! ### Bounds -/

/-- What is made of both ends of an interval fails where an end is of the wrong type. -/
theorem eq_error_of_ends {α β : Type} {extract : Scalar → Option α} {i : Interval Scalar}
    {make : Endpoint α → Endpoint α → Except CompileError β}
    (h : (do
      let lower ← i.lower.traverse (payload type extract)
      let upper ← i.upper.traverse (payload type extract)
      make lower upper) = .error e)
    (hmake : ∀ lower upper, ∃ b, make lower upper = .ok b) :
    ∃ a ∈ i.endValues, e = .typeMismatch type a := by
  rcases bind_eq_error.mp h with hl | ⟨l, -, h⟩
  · obtain ⟨a, ha, he⟩ := traverse_payload_eq_error hl
    exact ⟨a, Interval.mem_endValues.mpr (.inl ha), he⟩
  · rcases bind_eq_error.mp h with hu | ⟨u, -, h⟩
    · obtain ⟨a, ha, he⟩ := traverse_payload_eq_error hu
      exact ⟨a, Interval.mem_endValues.mpr (.inr ha), he⟩
    · obtain ⟨b, hb⟩ := hmake l u
      rw [hb] at h
      cases h

/-! ### Integers -/

section Integers

variable {index : Nat} {previous : Option IntegerRange} {i : Interval Scalar}
  {done rest : List (Interval Scalar)}

theorem eq_error_of_integerEnds (h : integerEnds type i = .error e) :
    ∃ a ∈ i.endValues, e = .typeMismatch type a := by
  refine eq_error_of_ends h fun l u => ?_
  split <;> exact ⟨_, rfl⟩

/-- The ends of an interval make a range. -/
theorem exists_range_of_integerEnds {least greatest : Bigint}
    (h : integerEnds type i = .ok (some (least, greatest))) :
    ∃ r, IntegerRange.make least greatest n = .ok r ∧ r.ends = (least, greatest) := by
  obtain ⟨j, -, hends⟩ := integerEnds_eq_ok.mp h
  have hle : least.val ≤ greatest.val := (ends?_eq_some.mp hends).2.2
  exact ⟨⟨least, greatest, n, hle⟩, IntegerRange.make_eq_ok.mpr ⟨rfl, rfl, rfl⟩, rfl⟩

/-- One step: a bound may be of the wrong type, or the range not after the previous one. -/
theorem eq_error_of_integerRangesFrom_cons
    (h : integerRangesFrom type n index previous (i :: rest) = .error e) :
    (∃ a ∈ i.endValues, e = .typeMismatch type a) ∨
      (∃ p ∈ previous, e = .integersUnordered index p.ends i) ∨
      integerRangesFrom type n (index + 1) previous rest = .error e ∨
      ∃ r : IntegerRange, integerEnds type i = .ok (some r.ends) ∧
        integerRangesFrom type n (index + 1) (some r) rest = .error e := by
  rcases bind_eq_error.mp h with hends | ⟨o, hends, h⟩
  · exact .inl (eq_error_of_integerEnds hends)
  · cases o with
    -- an interval without integers is passed over, and the previous range stays
    | none => exact .inr (.inr (.inl h))
    | some ends =>
      obtain ⟨r, hr, hrends⟩ := exists_range_of_integerEnds (n := n) hends
      simp only [hr] at h
      split at h
      · rename_i p hp
        obtain rfl := Except.error.inj h
        exact .inr (.inl ⟨p, (Option.filter_eq_some_iff.mp hp).1, rfl⟩)
      · refine .inr (.inr (.inr ⟨r, ?_, ?_⟩))
        · rw [hrends]
          exact hends
        · obtain h | ⟨_, hr', h⟩ := bind_eq_error.mp h
          · cases h
          · obtain rfl := Except.ok.inj hr'
            obtain h | ⟨_, -, h⟩ := bind_eq_error.mp h
            · exact h
            · cases h

/-- An error of the ranges from `rest` on names intervals of the whole list. -/
theorem isAbout_of_integerRangesFrom
    (hprevious : ∀ r ∈ previous, ∃ p ∈ done, integerEnds type p = .ok (some r.ends))
    (h : integerRangesFrom type n done.length previous rest = .error e) :
    e.IsAbout type (done ++ rest) := by
  -- along what is left; the previous range is always that of an interval left behind
  induction rest generalizing done previous with
  | nil => cases h
  | cons i rest ih =>
    have hstep (previous' : Option IntegerRange)
        (hprevious' : ∀ r ∈ previous', ∃ p ∈ done ++ [i], integerEnds type p = .ok (some r.ends))
        (h : integerRangesFrom type n (done.length + 1) previous' rest = .error e) :
        e.IsAbout type (done ++ i :: rest) := by
      have hlength : (done ++ [i]).length = done.length + 1 := by simp
      have habout := ih hprevious' (hlength ▸ h)
      simpa using habout
    rcases eq_error_of_integerRangesFrom_cons h with
      ⟨a, ha, rfl⟩ | ⟨r, hr, rfl⟩ | h | ⟨r, hends, h⟩
    · exact ⟨rfl, i, by simp, ha⟩
    · refine ⟨by simp, ?_⟩
      obtain ⟨p, hp, hends⟩ := hprevious r hr
      exact ⟨p, by simpa using hp, hends⟩
    · refine hstep previous (fun r hr => ?_) h
      obtain ⟨p, hp, hends⟩ := hprevious r hr
      exact ⟨p, List.mem_append_left _ hp, hends⟩
    · refine hstep (some r) (fun r' hr' => ?_) h
      obtain rfl := Option.some.inj hr'
      exact ⟨i, by simp, hends⟩

/-- An integer column fails where its ranges do. -/
theorem eq_error_of_integerFilter (h : integerFilter options type list n = .error e) :
    integerRangesFrom type n 0 none list = .error e :=
  eq_error_of_bind h fun _ hranges => exists_integerFilter_of_ranges hranges

end Integers

/-! ### Spans -/

section Spans

variable {α : Type}

theorem eq_error_of_spanOf [SpanValue α] {extract : Scalar → Option α} {i : Interval Scalar}
    (h : spanOf type extract n i = .error e) : ∃ a ∈ i.endValues, e = .typeMismatch type a :=
  eq_error_of_ends h fun _ _ => ⟨_, rfl⟩

variable [Ord α]

/-- The check of spans stops at two of them, whose intervals it finds in the list. -/
theorem eq_error_of_checkSpansFrom {index : Nat} {spans : List (Span α)}
    (hlength : index + spans.length ≤ list.length)
    (h : checkSpansFrom list index spans = .error e) :
    ∃ k p q, list[k]? = some p ∧ list[k + 1]? = some q ∧ e = .unordered (k + 1) p q := by
  fun_induction checkSpansFrom list index spans with
  | case1 index s t rest hst ih =>
    rw [List.length_cons] at hlength
    exact ih (by omega) h
  | case2 index s t rest hst =>
    -- there are as many intervals as spans, so both positions are in the list
    rw [List.length_cons, List.length_cons] at hlength
    have hp : list[index]? = some list[index] := List.getElem?_eq_getElem (by omega)
    have hq : list[index + 1]? = some list[index + 1] := List.getElem?_eq_getElem (by omega)
    rw [intervalAt_eq_ok.mpr hp, intervalAt_eq_ok.mpr hq] at h
    exact ⟨index, _, _, hp, hq, (Except.error.inj h).symm⟩
  | case3 spans index _ => cases h

variable [SpanValue α] {extract : Scalar → Option α}

/-- A column of spans fails where a bound is of the wrong type, or where a span is not before the
next one. -/
theorem eq_error_of_spanFilter (F : SpanFamily α) (hne : list ≠ [])
    (h : spanFilter F.span type extract list n = .error e) :
    list.mapM (spanOf type extract n) = .error e ∨
      ∃ spans : List (Span α), spans.length = list.length ∧
        checkSpansFrom list 0 spans = .error e := by
  obtain hspans | ⟨spans, hspans, hrest⟩ := bind_eq_error.mp h
  · exact .inl hspans
  · right
    obtain ⟨converted, hreads, rfl⟩ := mapM_spanOf_eq_ok.mp hspans
    refine ⟨converted.map (·.toSpan n), by rw [List.length_map, hreads.length_eq], ?_⟩
    split at hrest
    · cases hrest
    · obtain hcheck | ⟨_, hcheck, -⟩ := bind_eq_error.mp hrest
      · exact hcheck
      · -- spans that passed the check make a filter
        obtain ⟨f, hf⟩ : ∃ f, spanFilter F.span type extract list n = .ok f :=
          exists_spanFilter_of_areAscending hreads hne (checkSpansFrom_eq_ok.mp hcheck)
        rw [hf] at h
        cases h

theorem isAbout_of_spanFilter (F : SpanFamily α) (hne : list ≠ [])
    (h : spanFilter F.span type extract list n = .error e) : e.IsAbout type list := by
  rcases eq_error_of_spanFilter F hne h with h | ⟨spans, hlength, h⟩
  · obtain ⟨i, hi, h⟩ := mapM_eq_error h
    obtain ⟨a, ha, rfl⟩ := eq_error_of_spanOf h
    exact ⟨rfl, i, hi, ha⟩
  · obtain ⟨k, p, q, hp, hq, rfl⟩ := eq_error_of_checkSpansFrom (by omega) h
    exact ⟨k, rfl, hp, hq⟩

end Spans

/-! ### Byte strings -/

theorem isAbout_of_bytesFilter (hne : list ≠ [])
    (h : bytesFilter options type list n = .error e) : e.IsAbout type list := by
  rw [bytesFilter] at h
  split at h
  · rename_i hpoints
    have hpoints := List.all_eq_true.mp (Bool.and_eq_true_iff.mp hpoints).2
    rcases bind_eq_error.mp h with h | ⟨values, hvalues, h⟩
    · -- a point whose value is no byte string
      obtain ⟨a, ha, h⟩ := mapM_eq_error h
      obtain rfl := payload_eq_error h
      obtain ⟨i, hi, hia⟩ := List.mem_filterMap.mp ha
      refine ⟨rfl, i, hi, ?_⟩
      rw [Interval.point?_eq_some.mp hia]
      exact Interval.mem_endValues.mpr (.inl rfl)
    · obtain ⟨set, hset⟩ : ∃ set, BytesSet.make values n = .ok set :=
        BytesSet.exists_make (values_ne_nil hne hpoints hvalues)
      rw [hset] at h
      cases h
  · exact isAbout_of_spanFilter .bytes hne h

/-! ### Domains -/

theorem invalidPrecision?_eq_some {precision : Nat} (h : invalidPrecision? type = some precision) :
    ∃ scale, type = .decimal precision scale := by
  cases type with
  | decimal p scale =>
    rw [invalidPrecision?] at h
    split at h
    · cases h
      exact ⟨scale, rfl⟩
    · cases h
  | _ => cases h

theorem isAbout_of_listFilter (hne : list ≠ []) (h : listFilter options type list n = .error e) :
    e.IsAbout type list := by
  rw [listFilter] at h
  split at h
  · cases h
  · have hranges :
        integerRangesFrom type n ([] : List (Interval Scalar)).length none list = .error e :=
      eq_error_of_integerFilter h
    exact isAbout_of_integerRangesFrom (fun r hr => absurd hr (Option.not_mem_none r)) hranges
  · exact isAbout_of_spanFilter .double hne h
  · exact isAbout_of_spanFilter .real hne h
  · exact isAbout_of_spanFilter .decimal hne h
  · exact isAbout_of_bytesFilter hne h

theorem isAbout_of_valuesFilter {values : IntervalSet Scalar}
    (h : valuesFilter options type values n = .error e) : e.IsAbout type values.toList := by
  unfold valuesFilter at h
  split at h
  · rename_i precision hprecision
    obtain rfl := Except.error.inj h
    exact invalidPrecision?_eq_some hprecision
  · -- only a list that is not empty is checked; the other sets make constant filters
    match values, h with
    | .none, h => cases h
    | .all, h => cases h
    | .intervals [], h => cases h
    | .intervals (i :: rest), h =>
      obtain hcheck | ⟨_, -, h⟩ := bind_eq_error.mp h
      · obtain ⟨index, hfault, -⟩ := check_eq_error_iff.mp hcheck
        exact hfault.isAbout
      · split at h
        · cases h
        · exact isAbout_of_listFilter (List.cons_ne_nil i rest) h

end Compile

/-- Whatever the domain, the type and the settings, a compilation makes a filter, or reports an
error about the domain's list. Parts of a filter never fail to fit together, and no interval is
looked up where there is none. -/
theorem Domain.compile_error_isAbout (options : Options) (type : SqlType) (d : Domain) :
    (∃ f, d.compile options type = .ok f) ∨
      ∃ e, d.compile options type = .error e ∧ (∀ p, e ≠ .malformed p) ∧
        (∀ count index, e ≠ .indexOutOfBounds count index) ∧ e.IsAbout type d.values.toList := by
  cases hcompile : d.compile options type with
  | ok f => exact .inl ⟨f, rfl⟩
  | error e =>
    have habout : e.IsAbout type d.values.toList := Compile.isAbout_of_valuesFilter hcompile
    exact .inr ⟨e, rfl, habout.ne_malformed, habout.ne_indexOutOfBounds, habout⟩

/-- Literals are ordered by kind first, so integers may be out of order in a list that is not. -/
example : (Domain.mk (.intervals [.point (.int64 ⟨5, by decide, by decide⟩),
      .point (.decimal128 ⟨3, by decide, by decide⟩)]) false).compile .standard (.decimal 9 0) =
    .error (.integersUnordered 1 (⟨5, by decide, by decide⟩, ⟨5, by decide, by decide⟩)
      (.point (.decimal128 ⟨3, by decide, by decide⟩))) := by
  decide

end ColumnFilter
