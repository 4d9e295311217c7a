/-
The null flag decides about NULL and about nothing else.

* `Compile.valuesFilter_eq_map`: what compiles with one flag is what compiles with another,
  relabelled, and what fails with one fails with the other.
* `Domain.nullAllowed_of_compile`: a filter has the flag of the domain that it was compiled for.
* `Domain.compile_null_flag`: domains that differ in the flag alone fail alike, or compile to
  filters that differ on NULL alone.

The flag goes into every range and every span that is made, comes out of them again when they
become members, and goes into the union. So the steps of a compilation are followed one by one, and
for each of them the outcome with one flag is compared with the outcome with another: ranges
relabelled (`Compile.integerRangesFrom_eq_map`), spans relabelled (`Compile.spanOf_eq_map`), and at
last filters relabelled.
-/
import ColumnFilter.Proofs.Compile.Errors
import ColumnFilter.Proofs.Filter.NullFlag

namespace ColumnFilter

namespace Compile

/-! ### Steps of two runs -/

section Runs

variable {ε α β : Type}

/-- Two runs of a step and what follows it. If the step makes the same up to relabelling and what
follows makes the same of what is relabelled, so do both together. -/
theorem bind_eq_map {x x' : Except ε α} {g g' : α → Except ε β} {relabel : α → α}
    {relabel' : β → β} (hx : x' = x.map relabel)
    (hg : ∀ a, g' (relabel a) = (g a).map relabel') : x' >>= g' = (x >>= g).map relabel' := by
  subst hx
  cases x with
  | error e => rfl
  | ok a => exact hg a

/-- Two runs that share a step, and make the same of it up to relabelling. -/
theorem bind_eq_map_right {x : Except ε α} {g g' : α → Except ε β} {relabel : β → β}
    (hg : ∀ a, g' a = (g a).map relabel) : x >>= g' = (x >>= g).map relabel := by
  cases x with
  | error e => rfl
  | ok a => exact hg a

theorem mapM_eq_map {g g' : α → Except ε β} {relabel : β → β}
    (h : ∀ a, g' a = (g a).map relabel) (l : List α) :
    l.mapM g' = (l.mapM g).map (List.map relabel) := by
  induction l with
  | nil => rfl
  | cons a l ih =>
    rw [List.mapM_cons, List.mapM_cons]
    refine bind_eq_map (h a) fun b => ?_
    exact bind_eq_map ih fun _ => rfl

theorem fromParts_map {x : Except ShapeError α} {g : α → β} :
    fromParts (x.map g) = (fromParts x).map g := by
  cases x <;> rfl

end Runs

variable (options : Options) (type : SqlType) (list : List (Interval Scalar)) (m n : Bool)

/-! ### Booleans -/

theorem booleanFilter_eq_withNullAllowed :
    booleanFilter list n = (booleanFilter list m).withNullAllowed n := by
  rw [booleanFilter, booleanFilter]
  cases hfalse : list.any (·.contains (.boolean false)) <;>
    cases htrue : list.any (·.contains (.boolean true)) <;> simp [hfalse, htrue]

/-! ### Integers -/

/-- The ranges are found alike: each is compared with the previous one by its ends. -/
theorem integerRangesFrom_eq_map (index : Nat) (previous : Option IntegerRange) :
    integerRangesFrom type n index (previous.map (·.withNullAllowed n)) list =
      (integerRangesFrom type m index previous list).map (List.map (·.withNullAllowed n)) := by
  -- along the intervals, the previous range of one run being that of the other relabelled
  induction list generalizing index previous with
  | nil => rfl
  | cons i rest ih =>
    rw [integerRangesFrom, integerRangesFrom]
    refine bind_eq_map_right fun ends => ?_
    cases ends with
    | none => exact ih (index + 1) previous
    | some ends =>
      obtain ⟨least, greatest⟩ := ends
      have hprevious :
          (previous.map (·.withNullAllowed n)).filter (least.val ≤ ·.upper.val) =
            (previous.filter (least.val ≤ ·.upper.val)).map (·.withNullAllowed n) := by
        rw [Option.filter_map]
        rfl
      have hmake : fromParts (IntegerRange.make least greatest n) =
          (fromParts (IntegerRange.make least greatest m)).map (·.withNullAllowed n) := by
        rw [IntegerRange.make_eq_map least greatest m n, fromParts_map]
      simp only [hprevious]
      cases previous.filter (least.val ≤ ·.upper.val) with
      | some p => rfl
      | none => exact bind_eq_map hmake fun r => bind_eq_map (ih (index + 1) (some r)) fun _ => rfl

/-- More ranges than one: neither the choice of a set or a union nor what it is made of depends on
their flags. -/
theorem integersFilter_eq_map (ranges : List IntegerRange) :
    (if options.valuesThreshold < (ranges.map (·.withNullAllowed n)).length &&
        (ranges.map (·.withNullAllowed n)).all (·.isPoint) then
      fromParts (IntegerSet.make ((ranges.map (·.withNullAllowed n)).map (·.lower)) n) >>=
        fun s => pure (Filter.integerSet s)
    else
      fromParts (IntegerUnion.make (ranges.map (·.withNullAllowed n)) n) >>=
        fun u => pure (Filter.integerUnion u)) =
    (if options.valuesThreshold < ranges.length && ranges.all (·.isPoint) then
      fromParts (IntegerSet.make (ranges.map (·.lower)) m) >>= fun s => pure (Filter.integerSet s)
    else
      fromParts (IntegerUnion.make ranges m) >>= fun u => pure (Filter.integerUnion u)).map
        (·.withNullAllowed n) := by
  have hpoints : (ranges.map (·.withNullAllowed n)).all (·.isPoint) = ranges.all (·.isPoint) := by
    rw [List.all_map]
    rfl
  have hvalues : (ranges.map (·.withNullAllowed n)).map (·.lower) = ranges.map (·.lower) := by
    rw [List.map_map]
    rfl
  have hset : fromParts (IntegerSet.make (ranges.map (·.lower)) n) =
      (fromParts (IntegerSet.make (ranges.map (·.lower)) m)).map (·.withNullAllowed n) := by
    rw [IntegerSet.make_eq_map _ m n, fromParts_map]
  have hunion : fromParts (IntegerUnion.make (ranges.map (·.withNullAllowed n)) n) =
      (fromParts (IntegerUnion.make ranges m)).map (·.withNullAllowed n) := by
    rw [IntegerUnion.make_map_eq_map ranges n m n, fromParts_map]
  -- the choice looks at the ends alone, so both runs make the same one
  rw [hpoints, hvalues, List.length_map]
  split
  · exact bind_eq_map hset fun _ => rfl
  · exact bind_eq_map hunion fun _ => rfl

theorem integerFilter_eq_map :
    integerFilter options type list n =
      (integerFilter options type list m).map (·.withNullAllowed n) := by
  refine bind_eq_map (integerRangesFrom_eq_map type list m n 0 none) fun ranges => ?_
  match ranges with
  | [] => exact congrArg Except.ok (Filter.withNullAllowed_nothing m n).symm
  | [r] => rfl
  | r :: t :: rest => exact integersFilter_eq_map options m n (r :: t :: rest)

/-! ### Spans -/

section Spans

variable {α : Type}

/-- The check of spans compares their limits. -/
theorem checkSpansFrom_map_withNullAllowed [Ord α] (index : Nat) (spans : List (Span α)) :
    checkSpansFrom list index (spans.map (·.withNullAllowed n)) =
      checkSpansFrom list index spans := by
  fun_induction checkSpansFrom list index spans with
  | case1 index s t rest hst ih =>
    rw [List.map_cons, List.map_cons, checkSpansFrom]
    exact (if_pos hst).trans ih
  | case2 index s t rest hst =>
    rw [List.map_cons, List.map_cons, checkSpansFrom]
    exact if_neg hst
  | case3 spans index h =>
    rcases spans with - | ⟨s, - | ⟨t, rest⟩⟩
    · rfl
    · rfl
    · exact absurd rfl (h s t rest)

variable [SpanValue α] (extract : Scalar → Option α)

theorem spanOf_eq_map (i : Interval Scalar) :
    spanOf type extract n i = (spanOf type extract m i).map (·.withNullAllowed n) :=
  bind_eq_map_right fun _ => bind_eq_map_right fun _ => rfl

theorem spanFilter_eq_map [Ord α] {wrap : Span α → AnySpan}
    (hwrap : ∀ s, wrap (s.withNullAllowed n) = (wrap s).withNullAllowed n) :
    spanFilter wrap type extract list n =
      (spanFilter wrap type extract list m).map (·.withNullAllowed n) := by
  have hspans : list.mapM (spanOf type extract n) =
      (list.mapM (spanOf type extract m)).map (List.map (·.withNullAllowed n)) :=
    mapM_eq_map (spanOf_eq_map type m n extract) list
  have hwrapped (spans : List (Span α)) : (spans.map (·.withNullAllowed n)).map wrap =
      (spans.map wrap).map (·.withNullAllowed n) := by
    rw [List.map_map, List.map_map]
    exact List.map_congr_left fun s _ => hwrap s
  -- the union of spans that are not one alone
  have hunion (spans : List (Span α)) :
      (checkSpansFrom list 0 (spans.map (·.withNullAllowed n)) >>= fun _ =>
        fromParts (SpanUnion.make ((spans.map (·.withNullAllowed n)).map wrap) n) >>= fun u =>
          pure (Filter.spanUnion u)) =
      (checkSpansFrom list 0 spans >>= fun _ =>
        fromParts (SpanUnion.make (spans.map wrap) m) >>= fun u =>
          pure (Filter.spanUnion u)).map (Filter.withNullAllowed n) := by
    have hmake : fromParts (SpanUnion.make ((spans.map (·.withNullAllowed n)).map wrap) n) =
        (fromParts (SpanUnion.make (spans.map wrap) m)).map (·.withNullAllowed n) := by
      rw [hwrapped, SpanUnion.make_map_eq_map _ n m n, fromParts_map]
    rw [checkSpansFrom_map_withNullAllowed]
    exact bind_eq_map_right fun _ => bind_eq_map hmake fun _ => rfl
  refine bind_eq_map hspans fun spans => ?_
  match spans with
  | [] => exact hunion []
  | [s] => exact congrArg (fun s => Except.ok (Filter.span s)) (hwrap s)
  | s :: t :: rest => exact hunion (s :: t :: rest)

end Spans

/-! ### Byte strings -/

theorem bytesFilter_eq_map :
    bytesFilter options type list n =
      (bytesFilter options type list m).map (·.withNullAllowed n) := by
  rw [bytesFilter, bytesFilter]
  split
  · refine bind_eq_map_right fun values => ?_
    have hset : fromParts (BytesSet.make values n) =
        (fromParts (BytesSet.make values m)).map (·.withNullAllowed n) := by
      rw [BytesSet.make_eq_map values m n, fromParts_map]
    exact bind_eq_map hset fun _ => rfl
  · exact spanFilter_eq_map type list m n Scalar.bytes? fun _ => rfl

/-! ### Domains -/

theorem listFilter_eq_map :
    listFilter options type list n =
      (listFilter options type list m).map (·.withNullAllowed n) := by
  rw [listFilter, listFilter]
  split
  · exact congrArg Except.ok (booleanFilter_eq_withNullAllowed list m n)
  · exact integerFilter_eq_map options type list m n
  · exact spanFilter_eq_map type list m n Scalar.float64? fun _ => rfl
  · exact spanFilter_eq_map type list m n Scalar.float32? fun _ => rfl
  · exact spanFilter_eq_map type list m n wideDecimal? fun _ => rfl
  · exact bytesFilter_eq_map options type list m n

/-- A set of values compiles alike with either flag, and fails alike. -/
theorem valuesFilter_eq_map (values : IntervalSet Scalar) :
    valuesFilter options type values n =
      (valuesFilter options type values m).map (·.withNullAllowed n) := by
  have hnothing : Except.ok (.nothing n) =
      (Except.ok (.nothing m) : Except CompileError Filter).map (·.withNullAllowed n) :=
    congrArg Except.ok (Filter.withNullAllowed_nothing m n).symm
  have heverything : Except.ok (.everything n) =
      (Except.ok (.everything m) : Except CompileError Filter).map (·.withNullAllowed n) :=
    congrArg Except.ok (Filter.withNullAllowed_everything m n).symm
  unfold valuesFilter
  cases invalidPrecision? type with
  | some precision => rfl
  | none =>
    match values with
    | .none => exact hnothing
    | .all => exact heverything
    | .intervals [] => exact hnothing
    | .intervals (i :: rest) =>
      refine bind_eq_map_right fun _ => ?_
      show (if _ then _ else _) = Except.map _ (if _ then _ else _)
      split
      · exact heverything
      · exact listFilter_eq_map options type (i :: rest) m n

end Compile

open Compile

namespace Domain

variable {options : Options} {type : SqlType}

/-- A filter says about NULL what the domain says. -/
theorem nullAllowed_of_compile {d : Domain} {f : Filter} (h : d.compile options type = .ok f) :
    f.nullAllowed = d.nullAllowed := by
  -- relabelled with the flag that it has, the filter is the same
  have hmap : d.compile options type =
      (d.compile options type).map (·.withNullAllowed d.nullAllowed) :=
    valuesFilter_eq_map options type d.nullAllowed d.nullAllowed d.values
  rw [h] at hmap
  rw [Except.ok.inj hmap, Filter.nullAllowed_withNullAllowed]

/-- With the flag and without it, a set of values fails to compile for the same reason, or makes two
filters that answer NULL as the flag says and every value alike. -/
theorem compile_null_flag (options : Options) (type : SqlType) (values : IntervalSet Scalar) :
    (∃ e, (∀ p, e ≠ .malformed p) ∧ (∀ count index, e ≠ .indexOutOfBounds count index) ∧
      compile options type ⟨values, false⟩ = .error e ∧
      compile options type ⟨values, true⟩ = .error e) ∨
    ∃ f g, compile options type ⟨values, false⟩ = .ok f ∧
      compile options type ⟨values, true⟩ = .ok g ∧
      f.testNull = false ∧ g.testNull = true ∧
      (∀ v : Probe, f.test v = g.test v) ∧
      (∀ (high : Bigint) (low : Word), f.testWords high low = g.testWords high low) ∧
      ∀ v : Scalar, f.testScalar (some v) = g.testScalar (some v) := by
  have hmap : compile options type ⟨values, true⟩ =
      (compile options type ⟨values, false⟩).map (·.withNullAllowed true) :=
    valuesFilter_eq_map options type false true values
  -- the second run is the first one relabelled
  cases hcompile : compile options type ⟨values, false⟩ with
  | error e =>
    rw [hcompile] at hmap
    have habout : e.IsAbout type values.toList := isAbout_of_valuesFilter hcompile
    exact .inl ⟨e, habout.ne_malformed, habout.ne_indexOutOfBounds, rfl, hmap⟩
  | ok f =>
    rw [hcompile] at hmap
    refine .inr ⟨f, f.withNullAllowed true, rfl, hmap, nullAllowed_of_compile hcompile,
      f.nullAllowed_withNullAllowed true, fun v => ?_, fun high low => ?_, fun v => ?_⟩
    · exact (f.test_withNullAllowed true v).symm
    · exact (f.testWords_withNullAllowed true high low).symm
    · exact (f.testValue_withNullAllowed true v).symm

end Domain

end ColumnFilter
