/-
Which unions of spans can be searched.

A union is searched by halving, which looks at the lower limits alone and takes it that those
which admit the value come first (`SpanUnion.IsSearchable`). A compilation checks less: that each
span ends before the next one starts, in the order of the spans. That is enough unless

* a span starts at a NaN below the numbers, and admits nothing where later spans admit numbers;
* bounds of two integer kinds meet in a wide decimal column. Literals are then ordered by kind, and
  a span may start beyond its own end, and beyond where the next one starts.

`Domain.isSearchable_of_compile` is the statement without these two.
`Domain.compile_mixed_kinds_not_isSearchable` and `Domain.compile_low_nan_not_isSearchable` show
that each of them makes a union which cannot be searched, and which misses a value of its domain.
-/
import ColumnFilter.Proofs.Compile.Bytes
import ColumnFilter.Proofs.Compile.Decimals
import ColumnFilter.Proofs.Compile.Floats

namespace ColumnFilter

/-- For every value of its family, the spans whose lower limit admits it come first. -/
def SpanUnion.IsSearchable : SpanUnion → Prop
  | double u => u.IsSearchable
  | real u => u.IsSearchable
  | decimal u => u.IsSearchable
  | bytes u => u.IsSearchable

/-- Whether a literal is a NaN below the numbers. -/
def Scalar.isLowNaN : Scalar → Bool
  | float32 x => x.isNaN && x.negative
  | float64 x => x.isNaN && x.negative
  | _ => false

namespace Compile

variable {options : Options} {type : SqlType} {list : List (Interval Scalar)} {n : Bool}
  {u : SpanUnion}

/-! ### Families of spans -/

section Families

variable {α L : Type} [LinearOrder α] [SpanValue α] [LinearOrder L] {extract : Scalar → Option α}
  {P : Scalar → Prop} {proper : α → Prop} {level : α → L}

theorem isSearchable_of_spanFilter (F : SpanFamily α)
    (hg : Graded SpanValue.lt SpanValue.le proper level) (hk : KeepsOrder extract P)
    (hadm : Admissible type list) (hP : ∀ i ∈ list, ∀ a ∈ i.endValues, P a)
    (hproper : ∀ i ∈ list, ∀ a ∈ i.lower.value?, ∀ c, extract a = some c →
      ∀ b, c ≤ b → proper b → proper c)
    (h : spanFilter F.span type extract list n = .ok (.spanUnion u)) :
    ∃ l : SpanList α, u = F.union l ∧ l.IsSearchable := by
  obtain ⟨converted, hreads, ⟨j, -, hj⟩ | ⟨l, hl, -, hu⟩⟩ := spanFilter_eq_ok.mp h
  · cases hj
  · refine ⟨l, Filter.spanUnion.inj hu, l.isSearchable hg ?_ ?_⟩
    · -- the spans have room, so their lower limits ascend as they do
      have hne := nonempty_of_reads hk hP hreads fun i hi => (hadm i hi).2
      rw [hl]
      refine List.forall_mem_map.mpr fun j hj => ?_
      rw [F.toInterval_toSpan]
      exact hne j hj
    · rw [hl]
      refine List.forall_mem_map.mpr fun j hj c hc => ?_
      rw [F.toInterval_toSpan] at hc
      obtain ⟨i, hi, hij⟩ := exists_reads_of_mem hreads hj
      obtain ⟨a, ha, hac⟩ := hij.lower.exists_of_mem hc
      exact hproper i hi a ha c hac

end Families

/-! ### Families of columns -/

theorem isLowNaN_literal (w : FloatWidth) (x : Ieee w.format) :
    (w.literal x).isLowNaN = (x.isNaN && x.negative) := by
  cases w <;> rfl

/-- No number is beyond a NaN that is not below the numbers. -/
theorem isNaN_eq_false_of_le {w : FloatWidth} {a : Scalar} (ha : a.isLowNaN = false)
    {x y : Ieee w.format} (hx : w.literal? a = some x) (hxy : x ≤ y) (hy : y.isNaN = false) :
    x.isNaN = false := by
  by_contra hnan
  rw [Bool.not_eq_false] at hnan
  rw [FloatWidth.literal?_eq_some.mp hx, isLowNaN_literal, hnan, Bool.true_and] at ha
  rw [Ieee.isNaN_of_le hxy ha hnan] at hy
  cases hy

/-- What a list compiles to, if it is a union of spans, can be searched. -/
theorem isSearchable_of_listFilter (hadm : Admissible type list)
    (hnan : ∀ i ∈ list, ∀ a ∈ i.lower.value?, a.isLowNaN = false)
    (hkind : type.typeClass = .longDecimal →
      ∃ kind, ∀ i ∈ list, ∀ a ∈ i.endValues, a.kind = kind)
    (h : listFilter options type list n = .ok (.spanUnion u)) : u.IsSearchable := by
  have hfloat (w : FloatWidth) : ∀ i ∈ list, ∀ a ∈ i.lower.value?, ∀ x, w.literal? a = some x →
      ∀ y, x ≤ y → y.isNaN = false → x.isNaN = false :=
    fun i hi a ha x hx y hxy hy => isNaN_eq_false_of_le (hnan i hi a ha) hx hxy hy
  rw [listFilter] at h
  split at h
  · -- truth values and integers are told apart by filters that answer them
    have htest := test_booleanFilter list n true
    rw [Except.ok.inj h] at htest
    cases u <;> cases htest
  · have htest := test_integerFilter h .least
    cases u <;> cases htest
  · obtain ⟨l, rfl, hl⟩ := isSearchable_of_spanFilter .double Ieee.graded
      (FloatWidth.literal?_keepsOrder .double) hadm (fun _ _ _ _ => trivial) (hfloat .double) h
    exact hl
  · obtain ⟨l, rfl, hl⟩ := isSearchable_of_spanFilter .real Ieee.graded
      (FloatWidth.literal?_keepsOrder .real) hadm (fun _ _ _ _ => trivial) (hfloat .real) h
    exact hl
  · rename_i hclass
    obtain ⟨kind, hkind⟩ := hkind hclass
    obtain ⟨l, rfl, hl⟩ := isSearchable_of_spanFilter .decimal Hugeint.graded
      (wideDecimal?_keepsOrder kind) hadm hkind (fun _ _ _ _ _ _ _ _ _ => trivial) h
    exact hl
  · rename_i hclass
    rcases bytesFilter_eq_ok.mp h with ⟨-, _, _, -, -, hset⟩ | ⟨-, h⟩
    · -- a set of points is no union
      cases hset
    · obtain ⟨l, rfl, hl⟩ := isSearchable_of_spanFilter .bytes Bytes.graded
        (bytes?_keepsOrder hclass) hadm (fun i hi => (hadm i hi).1)
        (fun _ _ _ _ _ _ _ _ _ => trivial) h
      exact hl

end Compile

open Compile in
/-- A union of spans that a compilation makes can be searched, if no interval of the domain starts
at a NaN below the numbers and the bounds of a wide decimal column are of one kind. -/
theorem Domain.isSearchable_of_compile (options : Options) (type : SqlType) (d : Domain)
    {f : Filter} {u : SpanUnion} (h : d.compile options type = .ok f) (hf : f = .spanUnion u)
    (hnan : ∀ i ∈ d.values.toList, ∀ a ∈ i.lower.value?, a.isLowNaN = false)
    (hkind : type.typeClass = .longDecimal → ∃ kind, ∀ a ∈ d.values.endValues, a.kind = kind) :
    u.IsSearchable := by
  rw [hf] at h
  rcases valuesFilter_eq_ok h with ⟨-, hconstant⟩ | ⟨-, hconstant⟩ | ⟨list, hd, -, hadm, hlist⟩
  · cases hnull : d.nullAllowed <;> rw [hnull] at hconstant <;> cases hconstant
  · cases hnull : d.nullAllowed <;> rw [hnull] at hconstant <;> cases hconstant
  · rw [hd] at hnan
    refine isSearchable_of_listFilter hadm hnan (fun hclass => ?_) hlist
    obtain ⟨kind, hkind⟩ := hkind hclass
    rw [hd] at hkind
    exact ⟨kind, IntervalSet.forall_mem_endValues.mp hkind⟩

theorem Domain.isSearchable_of_compile_two_ranges :
    ∃ (d : Domain) (f : Filter) (u : SpanUnion),
      d = ⟨.intervals
        [.between (.int64 ⟨1, by decide, by decide⟩) (.int64 ⟨2, by decide, by decide⟩),
          .above (.int64 ⟨5, by decide, by decide⟩)], true⟩ ∧
      d.compile .standard (.decimal 20 0) = .ok f ∧ f = .spanUnion u ∧ u.IsSearchable := by
  refine ⟨_, .spanUnion _, _, rfl, rfl, rfl, ?_⟩
  exact isSearchable_of_compile .standard (.decimal 20 0)
    ⟨.intervals [.between (.int64 ⟨1, by decide, by decide⟩) (.int64 ⟨2, by decide, by decide⟩),
      .above (.int64 ⟨5, by decide, by decide⟩)], true⟩ rfl rfl (by decide)
    fun _ => ⟨.int64, by decide⟩

/-- The second span starts at 10 and ends at -100, which is in order for literals of two kinds: -20
is admitted by the lower limit of the third span alone, and the search misses it. -/
theorem Domain.compile_mixed_kinds_not_isSearchable :
    ∃ (s : IntervalSet Scalar) (f : Filter) (u : SpanUnion),
      s = .intervals
        [.between (.int64 ⟨5, by decide, by decide⟩) (.int64 ⟨6, by decide, by decide⟩),
          .between (.int64 ⟨10, by decide, by decide⟩) (.decimal128 ⟨-100, by decide, by decide⟩),
          .between (.decimal128 ⟨-50, by decide, by decide⟩)
            (.decimal128 ⟨0, by decide, by decide⟩)] ∧
      (Domain.mk s false).compile .standard (.decimal 20 0) = .ok f ∧
      f = .spanUnion u ∧ ¬ u.IsSearchable ∧
      s.contains (.decimal128 ⟨-20, by decide, by decide⟩) = true ∧
      f.test (.decimal ⟨-20, by decide, by decide⟩) = .ok false := by
  refine ⟨_, _, _, rfl, rfl, rfl, fun hsearch => ?_, by decide, by decide +kernel⟩
  -- the third span admits -20 from below and the first does not
  have hpair := List.pairwise_cons.mp (hsearch ⟨-20, by decide, by decide⟩)
  exact absurd (hpair.1 _ (.tail _ (.head _)) (by decide)) (by decide)

/-- Two spans are NaNs below the numbers: 1.5 is admitted by the lower limit of the third span
alone, and the search misses it. -/
theorem Domain.compile_low_nan_not_isSearchable :
    ∃ (s : IntervalSet Scalar) (f : Filter) (u : SpanUnion),
      s = .intervals
        [.point (.float64 (.ofBits 0xfff8000000000002)),
          .point (.float64 (.ofBits 0xfff8000000000001)),
          .between (.float64 (.ofBits 0x3ff0000000000000))
            (.float64 (.ofBits 0x4000000000000000))] ∧
      (Domain.mk s false).compile .standard .double = .ok f ∧
      f = .spanUnion u ∧ ¬ u.IsSearchable ∧
      s.contains (.float64 (.ofBits 0x3ff8000000000000)) = true ∧
      f.test (.double (.ofBits 0x3ff8000000000000)) = .ok false := by
  refine ⟨_, _, _, rfl, rfl, rfl, fun hsearch => ?_, by decide, by decide +kernel⟩
  -- no number is above a NaN, so the first span admits none
  have hpair := List.pairwise_cons.mp (hsearch (.ofBits 0x3ff8000000000000))
  exact absurd (hpair.1 _ (.tail _ (.head _)) (by decide)) (by decide)

end ColumnFilter
