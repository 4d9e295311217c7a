/-
Which kind of filter a domain compiles to.

One member makes a range, more points than the threshold make a set, and any other members make a
union (`Compile.selectedKind`). Members are the intervals themselves, or those that hold an integer
on a column of integers (`Compile.specifiedKind`). The rule is followed in two places, on integers
after the conversion and on byte strings before it:

* `Compile.kind_integerFilter`: ranges stand for the intervals that hold an integer, and points for
  those that hold one integer only;
* `Compile.kind_spanFilter`: a union of spans has as many members as there are intervals, and it is
  discrete when they are;
* `Compile.kind_bytesFilter`: byte strings follow the rule, except that the threshold is looked at
  first. Below one point, a lone point becomes a set (`Compile.IsLonePoint`).

`Domain.compile_kind` puts the families together.
-/
import ColumnFilter.Proofs.Compile.NullFlag
import ColumnFilter.Proofs.Compile.Ranges
import ColumnFilter.Proofs.Compile.Strict

namespace ColumnFilter

/-! ### The rule -/

/-- Some 64-bit integer is in the interval, its bounds being read as integers. -/
def Interval.HoldsInteger (i : Interval Scalar) : Prop :=
  ∃ v : Bigint, i.admitsBy .integers v.val = true

/-- Exactly one 64-bit integer is in the interval. -/
def Interval.HoldsOneInteger (i : Interval Scalar) : Prop :=
  ∃ v : Bigint, ∀ w : Bigint, i.admitsBy .integers w.val = true ↔ w = v

namespace Compile

/-- One member is a range, more points than the threshold are a set, and other members a union. -/
def selectedKind (threshold members : Nat) (points : Prop) [Decidable points]
    (range set union : FilterKind) : FilterKind :=
  if members = 1 then range else if threshold < members ∧ points then set else union

open Classical in
/-- The intervals that hold an integer. -/
noncomputable def holders (list : List (Interval Scalar)) : List (Interval Scalar) :=
  list.filter fun i => i.HoldsInteger

open Classical in
/-- The kind of filter that the rule asks for, in each class of columns. -/
noncomputable def specifiedKind (threshold : Nat) (type : SqlType) (list : List (Interval Scalar))
    (nullAllowed : Bool) : FilterKind :=
  match type.typeClass with
  | .boolean =>
    match list.any (·.contains (.boolean false)), list.any (·.contains (.boolean true)) with
    | true, true => if nullAllowed then .alwaysTrue else .isNotNull
    | false, false => if nullAllowed then .isNull else .alwaysFalse
    | _, _ => .booleanValue
  | .integer =>
    if (holders list).length = 0 then if nullAllowed then .isNull else .alwaysFalse
    else selectedKind threshold (holders list).length (∀ i ∈ holders list, i.HoldsOneInteger)
      .integerRange .integerSet .integerUnion
  | .double => if list.length = 1 then .doubleRange else .spanUnion
  | .real => if list.length = 1 then .realRange else .spanUnion
  | .longDecimal => if list.length = 1 then .decimalRange else .spanUnion
  | .bytes =>
    selectedKind threshold list.length (∀ i ∈ list, i.isPoint = true) .bytesRange .bytesSet
      .spanUnion

/-- A single point on a bytes column, when sets begin below one point. -/
def IsLonePoint (threshold : Nat) (type : SqlType) (list : List (Interval Scalar)) : Prop :=
  type.typeClass = .bytes ∧ threshold = 0 ∧ ∃ a, list = [.point a]

/-- A filter that is a union of spans has one for each interval, and is discrete when they are. -/
def Mirrors (f : Filter) (list : List (Interval Scalar)) : Prop :=
  ∀ u, f = .spanUnion u → u.toList.length = list.length ∧
    u.isDiscrete = (IntervalSet.intervals list).isDiscrete

variable {options : Options} {type : SqlType} {list : List (Interval Scalar)} {n : Bool} {f : Filter}

/-! ### Integers -/

/-- Ranges stand for the intervals that hold an integer, and hold what these hold. -/
theorem forall₂_holders {converted : List (Interval Bigint)}
    (h : List.Forall₂ (Interval.Reads (integer? type)) list converted) :
    List.Forall₂ (fun i r => ∀ v : Bigint, i.admitsBy .integers v.val = r.contains v)
      (holders list) (converted.filterMap (range? n)) := by
  classical
  -- along both lists; an interval without integers leaves both, and any other stays in both
  induction h with
  | nil => exact .nil
  | @cons i j list converted hij _ ih =>
    have hadmits (v : Bigint) : i.admitsBy .integers v.val = true ↔
        ∃ r, range? n j = some r ∧ r.contains v = true := by
      rw [admitsBy_integers hij, contains_iff_of_range?]
    cases hrange : range? n j with
    | none =>
      have hnone : ¬ i.HoldsInteger := by
        rintro ⟨v, hv⟩
        obtain ⟨r, hr, -⟩ := (hadmits v).mp hv
        rw [hrange] at hr
        cases hr
      rw [List.filterMap_cons_none hrange, holders, List.filter_cons_of_neg (by simpa using hnone)]
      exact ih
    | some r =>
      have hcontains (v : Bigint) : i.admitsBy .integers v.val = r.contains v := by
        rw [Bool.eq_iff_iff, hadmits, hrange]
        simp
      have hsome : i.HoldsInteger := by
        refine ⟨r.lower, ?_⟩
        rw [hcontains, IntegerRange.contains_iff]
        exact ⟨Int.le_refl _, r.lower_le_upper⟩
      rw [List.filterMap_cons_some hrange, holders, List.filter_cons_of_pos (by simpa using hsome)]
      exact .cons hcontains ih

/-- Integer columns follow the rule, on the intervals that hold an integer. -/
theorem kind_integerFilter (htype : type.typeClass = .integer)
    (h : integerFilter options type list n = .ok f) :
    f.kind = specifiedKind options.valuesThreshold type list n := by
  obtain ⟨ranges, hranges, hf⟩ := integerFilter_eq_ok.mp h
  obtain ⟨converted, hreads, rfl⟩ := exists_reads_of_integerRangesFrom hranges
  have hheld := forall₂_holders (n := n) hreads
  have hpoints : (∀ i ∈ holders list, i.HoldsOneInteger) ↔
      ∀ r ∈ converted.filterMap (range? n), r.isPoint = true := by
    refine forall_mem_iff_of_forall₂ hheld fun i _ r hir => ?_
    rw [IntegerRange.isPoint_iff, Interval.HoldsOneInteger]
    simp only [hir]
  simp only [specifiedKind, htype, hheld.length_eq, hpoints, selectedKind]
  -- from here on the intervals do not matter, only how many ranges they left
  generalize converted.filterMap (range? n) = ranges at hf
  cases hf with
  | nothing => cases n <;> rfl
  | range r => rfl
  | set htwo hpoints hset =>
    rw [if_neg (by omega), if_neg (by omega), if_pos hpoints]
    rfl
  | union htwo hpoints hu =>
    rw [if_neg (by omega), if_neg (by omega), if_neg hpoints]
    rfl

/-! ### Spans -/

section Spans

variable {α : Type} [LinearOrder α] [DecidableEq α] [SpanValue α]

/-- What a family of spans is reported as: the kind of its spans, the members of its unions, and
which of them are points. -/
structure Reports (F : SpanFamily α) (range : FilterKind) : Prop where
  kind_span (s : Span α) : Filter.kind (.span (F.span s)) = range
  toList_union (u : SpanList α) : (F.union u).toList = u.members.toList.map F.span
  isPoint_span (s : Span α) : (F.span s).isPoint = s.isPoint

variable {F : SpanFamily α} {range : FilterKind} {extract : Scalar → Option α} {P : Scalar → Prop}

/-- One interval becomes a span, and any others a union of as many. -/
theorem kind_spanFilter (hF : Reports F range) (hk : KeepsOrder extract P)
    (hP : ∀ i ∈ list, ∀ a ∈ i.endValues, P a)
    (h : spanFilter F.span type extract list n = .ok f) :
    f.kind = (if list.length = 1 then range else .spanUnion) ∧ Mirrors f list := by
  obtain ⟨converted, hreads, ⟨j, rfl, rfl⟩ | ⟨l, hl, -, rfl⟩⟩ := spanFilter_eq_ok.mp h
  · refine ⟨?_, fun u hu => by cases hu⟩
    rw [hF.kind_span, if_pos (show list.length = 1 from hreads.length_eq)]
  · have hlength : l.members.toList.length = list.length := by
      rw [hl, List.length_map, hreads.length_eq]
    -- a union has two members, and there are as many intervals
    have htwo : 2 ≤ list.length := hlength ▸ l.two_le_size
    refine ⟨(if_neg (by omega)).symm, ?_⟩
    rintro _ ⟨rfl⟩
    rw [hF.toList_union]
    refine ⟨by rw [List.length_map, hlength], ?_⟩
    have hpoints : (∀ i ∈ list, i.isPoint = true) ↔ ∀ j ∈ converted, j.isPoint = true :=
      forall_mem_iff_of_forall₂ hreads fun i hi j hij => by rw [hij.isPoint_eq hk (hP i hi)]
    have hspans : ∀ j : Interval α, (F.span (j.toSpan false)).isPoint = j.isPoint := fun j => by
      rw [hF.isPoint_span, Span.isPoint_eq, F.toInterval_toSpan]
    rw [Bool.eq_iff_iff, SpanUnion.isDiscrete, hF.toList_union, hl, IntervalSet.isDiscrete,
      List.all_eq_true, List.all_eq_true, hpoints]
    simp only [List.forall_mem_map, hspans]

end Spans

theorem reports_double : Reports SpanFamily.double .doubleRange where
  kind_span _ := rfl
  toList_union _ := rfl
  isPoint_span _ := rfl

theorem reports_real : Reports SpanFamily.real .realRange where
  kind_span _ := rfl
  toList_union _ := rfl
  isPoint_span _ := rfl

theorem reports_decimal : Reports SpanFamily.decimal .decimalRange where
  kind_span _ := rfl
  toList_union _ := rfl
  isPoint_span _ := rfl

theorem reports_bytes : Reports SpanFamily.bytes .bytesRange where
  kind_span _ := rfl
  toList_union _ := rfl
  isPoint_span _ := rfl

/-! ### Byte strings -/

/-- On a bytes column the threshold is looked at before the number of intervals is. -/
theorem kind_bytesFilter (htype : type.typeClass = .bytes)
    (haccepts : ∀ i ∈ list, ∀ a ∈ i.endValues, type.accepts a = true)
    (h : bytesFilter options type list n = .ok f) :
    f.kind = (if options.valuesThreshold < list.length ∧ ∀ i ∈ list, i.isPoint = true
      then .bytesSet else if list.length = 1 then .bytesRange else .spanUnion) ∧
      Mirrors f list := by
  rcases bytesFilter_eq_ok.mp h with ⟨hset, _, _, -, -, rfl⟩ | ⟨hset, h⟩
  · exact ⟨(if_pos hset).symm, fun u hu => by cases hu⟩
  · rw [if_neg hset]
    exact kind_spanFilter reports_bytes (bytes?_keepsOrder htype) haccepts h

/-- On a bytes column the rule is followed, but for a lone point when sets begin below one. -/
theorem kind_of_not_isLonePoint (htype : type.typeClass = .bytes) (nullAllowed : Bool)
    (h : ¬ IsLonePoint options.valuesThreshold type list) :
    (if options.valuesThreshold < list.length ∧ ∀ i ∈ list, i.isPoint = true then .bytesSet
      else if list.length = 1 then .bytesRange else .spanUnion)
      = specifiedKind options.valuesThreshold type list nullAllowed := by
  simp only [specifiedKind, htype, selectedKind]
  by_cases hone : list.length = 1
  · rw [if_pos hone, if_neg, if_pos hone]
    rintro ⟨hlt, hpoints⟩
    obtain ⟨i, rfl⟩ := List.length_eq_one_iff.mp hone
    obtain ⟨a, rfl⟩ := Interval.isPoint_iff.mp (hpoints i List.mem_cons_self)
    exact h ⟨htype, by simpa using hlt, a, rfl⟩
  · rw [if_neg hone, if_neg hone]

/-! ### Domains -/

theorem kind_booleanFilter (htype : type.typeClass = .boolean) :
    (booleanFilter list n).kind = specifiedKind options.valuesThreshold type list n := by
  simp only [specifiedKind, htype, booleanFilter]
  cases list.any (·.contains (.boolean false)) <;>
    cases list.any (·.contains (.boolean true)) <;> cases n <;> rfl

/-- A filter of truth values is no union. -/
theorem mirrors_booleanFilter : Mirrors (booleanFilter list n) list := by
  intro u hu
  have htest := test_booleanFilter list n true
  rw [hu] at htest
  cases u <;> cases htest

/-- On the other columns the rule is followed throughout. -/
theorem kind_listFilter (htype : type.typeClass ≠ .bytes)
    (haccepts : ∀ i ∈ list, ∀ a ∈ i.endValues, type.accepts a = true)
    (hkind : ∃ kind, ∀ i ∈ list, ∀ a ∈ i.endValues, a.kind = kind)
    (h : listFilter options type list n = .ok f) :
    f.kind = specifiedKind options.valuesThreshold type list n ∧ Mirrors f list := by
  rw [listFilter] at h
  split at h
  · rename_i hclass
    cases h
    exact ⟨kind_booleanFilter hclass, mirrors_booleanFilter⟩
  · rename_i hclass
    refine ⟨kind_integerFilter hclass h, ?_⟩
    obtain ⟨ranges, -, hranges⟩ := exists_integerRanges h
    rintro u rfl
    cases hranges
  · rename_i hclass
    simp only [specifiedKind, hclass]
    exact kind_spanFilter reports_double (FloatWidth.literal?_keepsOrder .double) haccepts h
  · rename_i hclass
    simp only [specifiedKind, hclass]
    exact kind_spanFilter reports_real (FloatWidth.literal?_keepsOrder .real) haccepts h
  · rename_i hclass
    obtain ⟨kind, hkind⟩ := hkind
    simp only [specifiedKind, hclass]
    exact kind_spanFilter reports_decimal (wideDecimal?_keepsOrder kind) hkind h
  · rename_i hclass
    exact absurd hclass htype

end Compile

open Compile in
/-- A list in normal form whose bounds are accepted and of one kind compiles to the kind of filter
that the rule asks for, except that a lone point on a bytes column becomes a set when sets begin
below one point. A union of spans has one span for each interval, and is discrete when the
intervals are points. -/
theorem Domain.compile_kind (options : Options) (type : SqlType) (hproper : type.IsProper)
    (list : List (Interval Scalar)) (hn : (IntervalSet.intervals list).IsNormal)
    (haccepts : ∀ i ∈ list, ∀ a ∈ i.endValues, type.accepts a = true)
    (hkind : ∃ kind, ∀ i ∈ list, ∀ a ∈ i.endValues, a.kind = kind) (nullAllowed : Bool) :
    ∃ f, (Domain.mk (.intervals list) nullAllowed).compile options type = .ok f ∧
      f.nullAllowed = nullAllowed ∧
      (¬ IsLonePoint options.valuesThreshold type list →
        f.kind = specifiedKind options.valuesThreshold type list nullAllowed) ∧
      (IsLonePoint options.valuesThreshold type list → f.kind = .bytesSet) ∧
      Mirrors f list := by
  have hlist : ∃ f, listFilter options type list nullAllowed = .ok f :=
    exists_listFilter haccepts hkind hn.1 hn.2.2
  obtain ⟨f, hf, hlist⟩ := exists_compile_intervals hproper hn haccepts hlist
  refine ⟨f, hf, nullAllowed_of_compile hf, ?_⟩
  -- byte strings are apart, since their threshold comes before the count
  by_cases htype : type.typeClass = .bytes
  · rw [listFilter_bytes htype] at hlist
    obtain ⟨hbytes, hmirrors⟩ := kind_bytesFilter htype haccepts hlist
    refine ⟨fun hlone => ?_, ?_, hmirrors⟩
    · rw [hbytes, kind_of_not_isLonePoint htype nullAllowed hlone]
    · rintro ⟨-, hzero, a, rfl⟩
      rw [hbytes, if_pos]
      exact ⟨by simp [hzero], by simpa using Interval.isPoint_iff.mpr ⟨a, rfl⟩⟩
  · obtain ⟨hspecified, hmirrors⟩ := kind_listFilter htype haccepts hkind hlist
    exact ⟨fun _ => hspecified, fun hlone => absurd hlone.1 htype, hmirrors⟩

open Compile in
/-- The two zeros are points that do not meet, so they become a union; and a lone string becomes a
set when sets begin below one point. -/
theorem Domain.compile_kind_points :
    (∃ f, (Domain.mk (.intervals [.point (.float64 (.zero true)), .point (.float64 (.zero false))])
        false).compile .standard .double = .ok f ∧ f.kind = .spanUnion ∧
      ∀ u, f = .spanUnion u → u.toList.length = 2 ∧ u.isDiscrete = true) ∧
    ∃ f, (Domain.mk (.intervals [.point (.utf8 "a")]) true).compile ⟨0, false⟩ (.char 1) = .ok f ∧
      f.kind = .bytesSet := by
  constructor
  · obtain ⟨f, hf, -, hkind, -, hmirrors⟩ := Domain.compile_kind .standard .double trivial
      [.point (.float64 (.zero true)), .point (.float64 (.zero false))] (by decide) (by decide)
      ⟨.float64, by decide⟩ false
    exact ⟨f, hf, hkind (fun hlone => by cases hlone.1), hmirrors⟩
  · obtain ⟨f, hf, -, -, hlone, -⟩ := Domain.compile_kind ⟨0, false⟩ (.char 1) trivial
      [.point (.utf8 "a")] (by decide) (by decide) ⟨.utf8, by decide⟩ true
    exact ⟨f, hf, hlone ⟨rfl, rfl, _, rfl⟩⟩

open Compile in
/-- With sets from one point on, a lone byte string becomes a set where the rule asks for a range,
although it is a list in normal form with an accepted bound. -/
theorem Domain.compile_kind_lone_point :
    ∃ list : List (Interval Scalar), list = [.point (.binary ⟨[0x61]⟩)] ∧
      (IntervalSet.intervals list).IsNormal ∧
      (∀ i ∈ list, ∀ a ∈ i.endValues, SqlType.varbinary.accepts a = true) ∧
      ∃ f, (Domain.mk (.intervals list) false).compile ⟨0, true⟩ .varbinary = .ok f ∧
        f.kind = .bytesSet ∧ specifiedKind 0 .varbinary list false = .bytesRange := by
  have hn : (IntervalSet.intervals [.point (Scalar.binary ⟨[0x61]⟩)]).IsNormal := by decide
  have haccepts : ∀ i ∈ [Interval.point (Scalar.binary ⟨[0x61]⟩)], ∀ a ∈ i.endValues,
      SqlType.varbinary.accepts a = true := by decide
  have hproper : SqlType.varbinary.IsProper := trivial
  have hlist : ∃ f, listFilter ⟨0, true⟩ .varbinary _ false = .ok f :=
    exists_listFilter haccepts ⟨.binary, by decide⟩ hn.1 hn.2.2
  obtain ⟨f, hf, hlist⟩ := exists_compile_intervals hproper hn haccepts hlist
  refine ⟨_, rfl, hn, haccepts, f, hf, ?_, ?_⟩
  · rw [(kind_bytesFilter rfl haccepts hlist).1]
    exact if_pos (by decide)
  · simp [specifiedKind, SqlType.typeClass, selectedKind]

end ColumnFilter
