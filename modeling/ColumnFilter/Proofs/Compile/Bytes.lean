/-
Columns of texts, byte strings and truth values compile to filters that hold the same values.

* `Domain.compile_bytes_exact`: a filter compiled for a column of texts or byte strings passes a
  byte string exactly when an interval of the domain admits it, bounds being compared byte by
  byte; one compiled for a boolean column passes the truth values of the domain. Domains in
  normal form compile if their bounds are accepted.

More points than a threshold become a set, which is searched by the strings themselves and needs
no order. Other intervals become spans (`Compile.bytesFilter_eq_ok`).
-/
import ColumnFilter.Proofs.Compile.Spans
import ColumnFilter.Proofs.Filter.ByteStrings

namespace ColumnFilter

/-- Literals read as byte strings, which are compared as lists of bytes. -/
def Reading.bytes : Reading Scalar Bytes :=
  ⟨Scalar.bytes?, fun a b => a.toList < b.toList, fun a b => a.toList ≤ b.toList⟩

namespace Compile

variable {options : Options} {type : SqlType} {list : List (Interval Scalar)} {n : Bool} {f : Filter}

/-! ### Bounds of bytes columns -/

theorem bytes_through : Reading.bytes.Through Scalar.bytes? id SpanValue.lt SpanValue.le where
  read_eq h := h
  lt_eq a b := by
    rw [Bool.eq_iff_iff, Bytes.graded.lt_iff]
    simp [Reading.bytes, Bytes.lt_iff]
  le_eq a b := by
    rw [Bool.eq_iff_iff, Bytes.graded.le_iff]
    simp [Reading.bytes, Bytes.le_iff]

theorem decimal_ne_bytes {precision scale : Nat} :
    (SqlType.decimal precision scale).typeClass ≠ .bytes := by
  simp only [SqlType.typeClass]
  split <;> simp

theorem isProper_of_bytes (htype : type.typeClass = .bytes) : type.IsProper := by
  cases type with
  | decimal precision scale => exact absurd htype decimal_ne_bytes
  | _ => trivial

theorem isSome_bytes? (htype : type.typeClass = .bytes) {a : Scalar}
    (h : type.accepts a = true) : a.bytes?.isSome = true := by
  cases a with
  | utf8 s => rfl
  | binary b => rfl
  | _ =>
    cases type with
    | decimal precision scale => exact absurd htype decimal_ne_bytes
    | _ => simp [SqlType.accepts, SqlType.typeClass] at h htype

/-- A column takes texts or byte strings, not both, so bounds are in the order of their bytes. -/
theorem bytes?_keepsOrder (htype : type.typeClass = .bytes) :
    KeepsOrder Scalar.bytes? fun a => type.accepts a = true := by
  intro a b c d ha hb hc hd
  -- texts and byte strings never meet in one column, and are ordered alike within their kinds
  cases a with
  | utf8 s =>
    cases b with
    | utf8 t =>
      cases hc
      cases hd
      rfl
    | binary b => cases type <;> simp [SqlType.accepts] at ha hb
    | _ => cases hd
  | binary a =>
    cases b with
    | binary b =>
      cases hc
      cases hd
      rfl
    | utf8 t => cases type <;> simp [SqlType.accepts] at ha hb
    | _ => cases hd
  | _ => cases hc

/-! ### Sets of points -/

theorem admitsBy_bytes_point {a : Scalar} {c v : Bytes} (h : a.bytes? = some c) :
    (Interval.point a).admitsBy .bytes v = true ↔ v = c := by
  have hreads : (Interval.point a).Reads Scalar.bytes? (.point c) := ⟨.inclusive h, .inclusive h⟩
  have hadmits : (Interval.point a).admitsBy .bytes v
      = (Interval.point c).admitsBy (.plain SpanValue.lt SpanValue.le) v :=
    hreads.admitsBy bytes_through v
  rw [hadmits]
  simp only [Interval.admitsBy, Interval.point, Endpoint.admitsAboveBy, Endpoint.admitsBelowBy,
    Reading.plain, Option.any_some, Bool.and_eq_true, Bytes.graded.le_iff]
  simp [le_antisymm_iff, and_comm]

/-- The values of a list of points are what its intervals admit. -/
theorem mem_values_iff {values : List Bytes} (hpoints : ∀ i ∈ list, i.isPoint = true)
    (h : (list.filterMap (·.point?)).mapM (payload type Scalar.bytes?) = .ok values)
    {v : Bytes} : v ∈ values ↔ ∃ i ∈ list, i.admitsBy .bytes v = true := by
  rw [mapM_eq_ok] at h
  -- along the points; each has one value, and admits that alone
  induction list generalizing values with
  | nil =>
    cases h
    simp
  | cons i list ih =>
    obtain ⟨hi, hlist⟩ := List.forall_mem_cons.mp hpoints
    obtain ⟨a, ha⟩ := Option.isSome_iff_exists.mp hi
    rw [List.filterMap_cons_some ha] at h
    cases h with
    | cons hc hvalues =>
      rw [List.mem_cons, ih hlist hvalues, List.exists_mem_cons_iff,
        Interval.point?_eq_some.mp ha, admitsBy_bytes_point (payload_eq_ok.mp hc)]

/-- A list of points that is not empty has values. -/
theorem values_ne_nil {values : List Bytes} (hne : list ≠ [])
    (hpoints : ∀ i ∈ list, i.isPoint = true)
    (h : (list.filterMap (·.point?)).mapM (payload type Scalar.bytes?) = .ok values) :
    values ≠ [] := by
  -- without values there are no points, and so no intervals
  rintro rfl
  obtain ⟨i, hi⟩ := List.exists_mem_of_ne_nil list hne
  obtain ⟨a, ha⟩ := Option.isSome_iff_exists.mp (hpoints i hi)
  have hnil := List.forall₂_nil_right_iff.mp (mapM_eq_ok.mp h)
  exact List.ne_nil_of_mem (List.mem_filterMap.mpr ⟨i, hi, ha⟩) hnil

/-- Accepted points have values. -/
theorem exists_values (htype : type.typeClass = .bytes)
    (haccepts : ∀ i ∈ list, ∀ a ∈ i.endValues, type.accepts a = true) :
    ∃ values, (list.filterMap (·.point?)).mapM (payload type Scalar.bytes?) = .ok values := by
  have hpayload : ∀ a ∈ list.filterMap (·.point?), ∃ c, payload type Scalar.bytes? a = .ok c := by
    intro a ha
    obtain ⟨i, hi, hia⟩ := List.mem_filterMap.mp ha
    have hmem : a ∈ i.endValues := by
      rw [Interval.point?_eq_some.mp hia]
      exact Interval.mem_endValues.mpr (.inl rfl)
    obtain ⟨c, hc⟩ := Option.isSome_iff_exists.mp (isSome_bytes? htype (haccepts i hi a hmem))
    exact ⟨c, payload_eq_ok.mpr hc⟩
  exact exists_mapM hpayload

/-! ### Filters -/

/-- More points than a threshold are gathered in a set, and other lists become spans. -/
theorem bytesFilter_eq_ok : bytesFilter options type list n = .ok f ↔
    (options.valuesThreshold < list.length ∧ ∀ i ∈ list, i.isPoint = true) ∧
        (∃ values set, (list.filterMap (·.point?)).mapM (payload type Scalar.bytes?) = .ok values ∧
          BytesSet.make values n = .ok set ∧ f = .bytesSet set) ∨
      ¬ (options.valuesThreshold < list.length ∧ ∀ i ∈ list, i.isPoint = true) ∧
        spanFilter .bytes type Scalar.bytes? list n = .ok f := by
  simp only [bytesFilter, Bool.and_eq_true, decide_eq_true_iff, List.all_eq_true]
  split
  · rename_i hpoints
    simp only [hpoints, bind_eq_ok, pure_eq_ok, fromParts_eq_ok]
    grind
  · rename_i hpoints
    simp only [hpoints, false_and, false_or, not_false_eq_true, true_and]

/-- The filters of a bytes column test byte strings as the intervals do. -/
theorem test_bytesFilter (htype : type.typeClass = .bytes) (hadm : Admissible type list)
    (h : bytesFilter options type list n = .ok f) (v : Bytes) :
    f.test? (.bytes v) = some (list.any (·.admitsBy .bytes v)) := by
  rcases bytesFilter_eq_ok.mp h with ⟨⟨-, hpoints⟩, values, set, hvalues, hset, rfl⟩ | ⟨-, h⟩
  · show some (set.contains v) = _
    rw [Option.some.injEq, Bool.eq_iff_iff, BytesSet.make_eq_ok hset,
      mem_values_iff hpoints hvalues, List.any_eq_true]
  · exact test_spanFilter .bytes Bytes.graded (bytes?_keepsOrder htype) bytes_through hadm
      (fun i hi => (hadm i hi).1) (fun _ _ _ _ _ _ => trivial) h v

theorem exists_bytesFilter (htype : type.typeClass = .bytes)
    (haccepts : ∀ i ∈ list, ∀ a ∈ i.endValues, type.accepts a = true) (hne : list ≠ [])
    (hs : Separated list) : ∃ f, bytesFilter options type list n = .ok f := by
  by_cases hset : options.valuesThreshold < list.length ∧ ∀ i ∈ list, i.isPoint = true
  · obtain ⟨values, hvalues⟩ := exists_values htype haccepts
    obtain ⟨set, hmake⟩ : ∃ set, BytesSet.make values n = .ok set :=
      BytesSet.exists_make (values_ne_nil hne hset.2 hvalues)
    exact ⟨.bytesSet set, bytesFilter_eq_ok.mpr (.inl ⟨hset, values, set, hvalues, hmake, rfl⟩)⟩
  · obtain ⟨f, hf⟩ : ∃ f, spanFilter .bytes type Scalar.bytes? list n = .ok f :=
      exists_spanFilter .bytes (bytes?_keepsOrder htype) (fun _ => isSome_bytes? htype)
        haccepts hne hs
    exact ⟨f, bytesFilter_eq_ok.mpr (.inr ⟨hset, hf⟩)⟩

/-- The filter of a boolean column tells the truth values of the intervals apart. -/
theorem test_booleanFilter (list : List (Interval Scalar)) (n b : Bool) :
    (booleanFilter list n).test? (.boolean b) = some (list.any (·.contains (.boolean b))) := by
  rw [booleanFilter]
  cases hfalse : list.any (·.contains (.boolean false)) <;>
    cases htrue : list.any (·.contains (.boolean true)) <;> cases b <;>
      simp [hfalse, htrue]

end Compile

open Compile in
/-- A filter compiled for a column of texts or byte strings passes the strings that an interval of
the domain admits, and one for a boolean column the truth values of the domain. Domains in normal
form compile if their bounds are accepted. -/
theorem Domain.compile_bytes_exact (options : Options) (d : Domain) :
    (∀ type : SqlType, type.typeClass = .bytes →
      (∀ f, d.compile options type = .ok f →
        ∀ v : Bytes, f.test (.bytes v) = .ok (d.values.admitsBy .bytes v)) ∧
      (d.values.IsNormal → (∀ a ∈ d.values.endValues, type.accepts a = true) →
        ∃ f, d.compile options type = .ok f)) ∧
    (∀ f, d.compile options .boolean = .ok f →
      ∀ b : Bool, f.test (.boolean b) = .ok (d.values.contains (.boolean b))) ∧
    (d.values.IsNormal → (∀ a ∈ d.values.endValues, SqlType.boolean.accepts a = true) →
      ∃ f, d.compile options .boolean = .ok f) := by
  refine ⟨fun type htype => ?_, fun f hf b => ?_, fun hn haccepts => ?_⟩
  · constructor
    · intro f hf v
      refine test_of_compile_any hf rfl fun list _ hadm hlist => ?_
      rw [listFilter_bytes htype] at hlist
      exact test_bytesFilter htype hadm hlist v
    · intro hn haccepts
      refine exists_compile (isProper_of_bytes htype) hn haccepts fun list hd hlist => ?_
      rw [hd] at hn haccepts
      rw [listFilter_bytes htype]
      exact exists_bytesFilter htype (IntervalSet.forall_mem_endValues.mp haccepts) hn.1 hlist
  · -- a boolean column asks the intervals themselves
    rw [IntervalSet.contains_eq_any]
    refine test_of_compile_any hf rfl fun list _ _ hlist => ?_
    cases hlist
    exact test_booleanFilter list d.nullAllowed b
  · exact exists_compile trivial hn haccepts fun list _ _ => ⟨_, rfl⟩

/-- Two points become a set, in which no string stands for a longer one; and what is above `false`
is `true`. -/
theorem Domain.compile_bytes_exact_points :
    (∃ f, (Domain.mk (.intervals [.point (.binary ⟨[]⟩), .point (.binary ⟨[0xff]⟩)]) false).compile
        .standard .varbinary = .ok f ∧
      f.test (.bytes ⟨[0xff]⟩) = .ok true ∧ f.test (.bytes ⟨[0xff, 0]⟩) = .ok false) ∧
    ∃ f, (Domain.mk (.intervals [.above (.boolean false)]) false).compile
        .standard .boolean = .ok f ∧
      f.test (.boolean true) = .ok true ∧ f.test (.boolean false) = .ok false := by
  constructor
  · have h := (Domain.compile_bytes_exact .standard (Domain.mk (.intervals
      [.point (.binary ⟨[]⟩), .point (.binary ⟨[0xff]⟩)]) false)).1 .varbinary rfl
    obtain ⟨f, hf⟩ := h.2 ⟨by simp, by simp [Interval.point, Interval.all], by decide, by decide⟩
      (by decide)
    exact ⟨f, hf, h.1 f hf _, h.1 f hf _⟩
  · have h := (Domain.compile_bytes_exact .standard
      (Domain.mk (.intervals [.above (.boolean false)]) false)).2
    obtain ⟨f, hf⟩ := h.2 ⟨by simp, by simp [Interval.above, Interval.all], by decide, by decide⟩
      (by decide)
    exact ⟨f, hf, h.1 f hf _, h.1 f hf _⟩

end ColumnFilter
