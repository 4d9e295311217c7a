/-
Floating-point columns compile to filters that hold the same numbers.

* `Domain.compile_floats_exact`: a filter compiled for a column of doubles or reals, from a
  domain without NaN at its ends, passes a number exactly when an interval of the domain admits
  it, ends and numbers being compared as numbers. That is membership in the total order, but for
  zeros in a domain with a zero at some end. A NaN passes only if the domain is everything.

The two widths differ in their literals and probes alone, which `FloatWidth` names.
-/
import ColumnFilter.Proofs.Compile.Spans
import ColumnFilter.Proofs.Ieee.Comparison

namespace ColumnFilter

/-! ### Widths -/

/-- The floating-point types of columns. -/
inductive FloatWidth where
  | real
  | double
deriving DecidableEq

namespace FloatWidth

/-- The format of the values of a column. -/
def format : FloatWidth → FloatFormat
  | real => .binary32
  | double => .binary64

/-- The type of a column. -/
def type : FloatWidth → SqlType
  | real => .real
  | double => .double

/-- The literal of a value. -/
def literal : (w : FloatWidth) → Ieee w.format → Scalar
  | real, x => .float32 x
  | double, x => .float64 x

/-- The value of a literal. -/
def literal? : (w : FloatWidth) → Scalar → Option (Ieee w.format)
  | real, a => a.float32?
  | double, a => a.float64?

/-- The value to be tested. -/
def probe : (w : FloatWidth) → Ieee w.format → Probe
  | real, x => .real x
  | double, x => .double x

variable {w : FloatWidth}

theorem literal?_eq_some {a : Scalar} {x : Ieee w.format} :
    w.literal? a = some x ↔ a = w.literal x := by
  cases w <;> cases a <;> constructor <;> intro h <;> cases h <;> rfl

theorem compare_literal (x y : Ieee w.format) :
    compare (w.literal x) (w.literal y) = compare x y := by
  cases w <;> rfl

theorem isSome_literal? {a : Scalar} (h : w.type.accepts a = true) :
    (w.literal? a).isSome = true := by
  cases w <;> cases a <;> first | rfl | cases h

theorem literal?_keepsOrder (w : FloatWidth) {P : Scalar → Prop} : KeepsOrder w.literal? P := by
  intro a b x y _ _ ha hb
  rw [literal?_eq_some.mp ha, literal?_eq_some.mp hb, compare_literal]

end FloatWidth

/-- Literals read as numbers and compared as numbers. -/
def Reading.floats (w : FloatWidth) : Reading Scalar (Ieee w.format) :=
  ⟨w.literal?, Ieee.lt, Ieee.le⟩

namespace Compile

variable {options : Options} {w : FloatWidth} {i : Interval Scalar}
  {list : List (Interval Scalar)} {n : Bool} {f : Filter}

theorem floats_through : (Reading.floats w).Through w.literal? id Ieee.lt Ieee.le where
  read_eq h := h
  lt_eq _ _ := rfl
  le_eq _ _ := rfl

theorem literals_through :
    (Reading.ordered Scalar).Through w.literal? w.literal (fun x y => decide (x < y))
      fun x y => decide (x ≤ y) where
  read_eq h := congrArg some (FloatWidth.literal?_eq_some.mp h)
  lt_eq x y := by
    simp only [Reading.ordered, Reading.plain, ← compare_lt_iff_lt, FloatWidth.compare_literal]
  le_eq x y := by
    simp only [Reading.ordered, Reading.plain, ← compare_le_iff_le, FloatWidth.compare_literal]

/-! ### Numbers and the total order -/

/-- Where no two zeros meet, an interval admits a number when it contains its literal. -/
theorem admitsBy_floats (hreads : ∀ a ∈ i.endValues, (w.literal? a).isSome = true)
    (hnan : ∀ a ∈ i.endValues, ∀ x ∈ w.literal? a, x.isNaN = false)
    {v : Ieee w.format} (hv : v.isNaN = false)
    (hzero : ∀ a ∈ i.endValues, ∀ x ∈ w.literal? a, x.isZero = false ∨ v.isZero = false) :
    i.admitsBy (.floats w) v = i.contains (w.literal v) := by
  obtain ⟨j, hj⟩ := Interval.exists_reads hreads
  have hends : ∀ x ∈ j.endValues, x.isNaN = false ∧ (x.isZero = false ∨ v.isZero = false) := by
    intro x hx
    obtain ⟨a, ha, hax⟩ := hj.exists_of_mem hx
    exact ⟨hnan a ha x hax, hzero a ha x hax⟩
  calc i.admitsBy (.floats w) v
    _ = j.admitsBy (.plain Ieee.lt Ieee.le) v := hj.admitsBy floats_through v
    _ = j.admitsBy (.ordered _) v := by
      refine Interval.admitsBy_congr fun x hx => ?_
      obtain ⟨hnan, hzero⟩ := hends x hx
      exact ⟨⟨Ieee.lt_eq_decide hnan hv hzero, Ieee.le_eq_decide hnan hv hzero⟩,
        Ieee.lt_eq_decide hv hnan hzero.symm, Ieee.le_eq_decide hv hnan hzero.symm⟩
    _ = i.admitsBy (.ordered _) (w.literal v) := (hj.admitsBy literals_through v).symm
    _ = i.contains (w.literal v) := i.admitsBy_ordered _

/-! ### Filters -/

/-- The filters of a floating-point column are spans, of either width. -/
theorem test_floatFilter (hadm : Admissible w.type list)
    (hnan : ∀ i ∈ list, ∀ a ∈ i.endValues, ∀ x ∈ w.literal? a, x.isNaN = false)
    (h : listFilter options w.type list n = .ok f) (v : Ieee w.format) :
    f.test? (w.probe v) = some (list.any (·.admitsBy (.floats w) v)) := by
  cases w with
  | real =>
    exact test_spanFilter .real Ieee.graded (FloatWidth.literal?_keepsOrder .real) floats_through
      hadm (fun i hi => (hadm i hi).1) hnan h v
  | double =>
    exact test_spanFilter .double Ieee.graded (FloatWidth.literal?_keepsOrder .double) floats_through
      hadm (fun i hi => (hadm i hi).1) hnan h v

theorem separated_of_floatFilter (hadm : Admissible w.type list)
    (h : listFilter options w.type list n = .ok f) :
    ∃ converted : List (Interval (Ieee w.format)),
      List.Forall₂ (Interval.Reads w.literal?) list converted ∧ Separated converted := by
  have haccepts : ∀ i ∈ list, ∀ a ∈ i.endValues, w.type.accepts a = true :=
    fun i hi => (hadm i hi).1
  cases w with
  | real =>
    exact separated_of_spanFilter .real (FloatWidth.literal?_keepsOrder .real) hadm haccepts h
  | double =>
    exact separated_of_spanFilter .double (FloatWidth.literal?_keepsOrder .double) hadm haccepts h

/-- A NaN passes no interval that has an end, and one without ends would stand alone. -/
theorem any_admitsBy_of_isNaN (hadm : Admissible w.type list)
    (hall : (IntervalSet.intervals list).isAll = false)
    (h : listFilter options w.type list n = .ok f) {v : Ieee w.format} (hv : v.isNaN = true) :
    list.any (·.admitsBy (.floats w) v) = false := by
  obtain ⟨converted, hreads, hseparated⟩ := separated_of_floatFilter hadm h
  have hany : list.any (·.admitsBy (.floats w) v)
      = converted.any (·.admitsBy (.plain Ieee.lt Ieee.le) v) :=
    any_admitsBy_of_reads hreads floats_through v
  rw [hany]
  simp only [Ieee.graded.admitsBy_of_not_proper (ne_false_of_eq_true hv)]
  -- one without ends is then the whole list, which is everything
  refine List.any_eq_false.mpr fun j hj hjall => ?_
  rw [Interval.isAll_iff] at hjall
  obtain rfl := hseparated.eq_singleton_all (hjall ▸ hj)
  cases hreads with
  | @cons i _ list _ hij hrest =>
    cases hrest
    obtain ⟨l, u⟩ := i
    obtain ⟨hl, hu⟩ := hij
    cases hl
    cases hu
    cases hall

theorem exists_floatFilter (haccepts : ∀ i ∈ list, ∀ a ∈ i.endValues, w.type.accepts a = true)
    (hne : list ≠ []) (hs : Separated list) :
    ∃ f, listFilter options w.type list n = .ok f := by
  cases w with
  | real =>
    exact exists_spanFilter .real (FloatWidth.literal?_keepsOrder .real)
      (fun _ => FloatWidth.isSome_literal?) haccepts hne hs
  | double =>
    exact exists_spanFilter .double (FloatWidth.literal?_keepsOrder .double)
      (fun _ => FloatWidth.isSome_literal?) haccepts hne hs

end Compile

open Compile in
/-- A filter compiled for a floating-point column passes the numbers that an interval of the domain
admits, which are its members unless zeros meet; a NaN it passes if the domain is everything. A
domain in normal form compiles if its bounds are accepted. -/
theorem Domain.compile_floats_exact (options : Options) (w : FloatWidth) (d : Domain)
    (hnan : ∀ a ∈ d.values.endValues, ∀ x ∈ w.literal? a, x.isNaN = false) :
    (∀ f, d.compile options w.type = .ok f →
      (∀ v, v.isNaN = false → f.test (w.probe v) = .ok (d.values.admitsBy (.floats w) v)) ∧
      (∀ v, v.isNaN = false →
        (v.isZero = false ∨
          ∀ a ∈ d.values.endValues, ∀ x ∈ w.literal? a, x.isZero = false) →
        f.test (w.probe v) = .ok (d.values.contains (w.literal v))) ∧
      (∀ v, v.isNaN = true → f.test (w.probe v) = .ok d.values.isAll)) ∧
    (d.values.IsNormal → (∀ a ∈ d.values.endValues, w.type.accepts a = true) →
      ∃ f, d.compile options w.type = .ok f) := by
  rw [IntervalSet.forall_mem_endValues] at hnan
  constructor
  · intro f hf
    refine ⟨fun v _ => ?_, fun v hv hzero => ?_, fun v hv => ?_⟩
    · -- numbers
      refine test_of_compile_any hf rfl fun list hd hadm hlist => ?_
      rw [hd] at hnan
      exact test_floatFilter hadm hnan hlist v
    · -- numbers, where no zeros meet
      rw [IntervalSet.contains_eq_any]
      refine test_of_compile_any hf rfl fun list hd hadm hlist => ?_
      rw [hd] at hnan
      rw [hd, IntervalSet.forall_mem_endValues] at hzero
      rw [test_floatFilter hadm hnan hlist v, Option.some.injEq, Bool.eq_iff_iff, List.any_eq_true,
        List.any_eq_true]
      refine exists_congr fun i => and_congr_right fun hi => ?_
      have hreads : ∀ a ∈ i.endValues, (w.literal? a).isSome = true := fun a ha =>
        FloatWidth.isSome_literal? ((hadm i hi).1 a ha)
      have hmeet : ∀ a ∈ i.endValues, ∀ x ∈ w.literal? a,
          x.isZero = false ∨ v.isZero = false := by
        intro a ha x hx
        exact hzero.symm.imp (fun hends => hends i hi a ha x hx) id
      rw [admitsBy_floats hreads (hnan i hi) hv hmeet]
    · -- NaN
      refine test_of_compile hf IntervalSet.isAll_of_toList_eq_nil id
        fun list hd hall hadm hlist => ?_
      rw [hd] at hnan hall ⊢
      rw [test_floatFilter hadm hnan hlist v, any_admitsBy_of_isNaN hadm hall hlist hv, hall]
  · intro hn haccepts
    refine exists_compile (by cases w <;> trivial) hn haccepts fun list hd hlist => ?_
    rw [hd] at hn haccepts
    exact exists_floatFilter (IntervalSet.forall_mem_endValues.mp haccepts) hn.1 hlist

/-- Up to `-0`, and from `0` to `1`: both zeros are in both intervals. -/
theorem Domain.compile_floats_exact_zeros :
    ∃ f, (Domain.mk (.intervals
        [⟨.unbounded, .inclusive (.float64 (.ofBits 0x8000000000000000))⟩,
          ⟨.inclusive (.float64 (.ofBits 0)), .inclusive (.float64 (.ofBits 0x3ff0000000000000))⟩])
        false).compile .standard .double = .ok f ∧
      f.test (.double (.ofBits 0)) = .ok true ∧
      f.test (.double (.ofBits 0x4000000000000000)) = .ok false ∧
      f.test (.double (.ofBits 0x7ff8000000000000)) = .ok false := by
  have h := Domain.compile_floats_exact .standard .double (Domain.mk (.intervals
    [⟨.unbounded, .inclusive (.float64 (.ofBits 0x8000000000000000))⟩,
      ⟨.inclusive (.float64 (.ofBits 0)), .inclusive (.float64 (.ofBits 0x3ff0000000000000))⟩])
    false) (by decide)
  obtain ⟨f, hf⟩ := h.2 ⟨by simp, by simp, by decide, by decide⟩ (by decide)
  obtain ⟨hnumber, hmember, hnan⟩ := h.1 f hf
  exact ⟨f, hf, hnumber _ (by decide), hmember _ (by decide) (.inl (by decide)),
    hnan _ (by decide)⟩

end ColumnFilter
