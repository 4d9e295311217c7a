/-
Negation on floating-point columns.

* `Domain.compile_complement_floats`: the filter of a set and the filter of its complement answer
  every number in opposite ways.

The complement is taken in the total order, where `-0` and `0` are two members with a cut between
them, while both filters join the two. Neither filter is membership at the zeros: what it answers
there is a majority of three facts (`admitsBy_iff_twoOf`), and the complement has the opposite of
each.
-/
import ColumnFilter.Proofs.Compile.Floats
import ColumnFilter.Proofs.Interval.Algebra
import ColumnFilter.Proofs.Interval.Ends
import ColumnFilter.Proofs.Interval.Levels

namespace ColumnFilter

/-! ### Literals of numbers -/

namespace FloatWidth

/-- The literal of a value that is a number. -/
def IsNumber (w : FloatWidth) (a : Scalar) : Prop :=
  ∃ x : Ieee w.format, a = w.literal x ∧ x.isNaN = false

variable {w : FloatWidth} {a : Scalar}

theorem literal_strictMono (w : FloatWidth) : StrictMono w.literal := by
  intro x y hxy
  rw [← compare_lt_iff_lt] at hxy ⊢
  rw [compare_literal, hxy]

theorem IsNumber.accepts (h : w.IsNumber a) : w.type.accepts a = true := by
  obtain ⟨x, rfl, -⟩ := h
  cases w <;> rfl

theorem IsNumber.isNaN_eq_false (h : w.IsNumber a) {x : Ieee w.format}
    (hx : w.literal? a = some x) : x.isNaN = false := by
  obtain ⟨y, rfl, hy⟩ := h
  have hxy := (literal_strictMono w).injective (literal?_eq_some.mp hx)
  exact hxy ▸ hy

end FloatWidth

namespace Compile

variable {options : Options} {w : FloatWidth} {s : IntervalSet Scalar}

/-! ### Complements of sets -/

/-- The intervals of a set in normal form, read as intervals of numbers. -/
theorem exists_reads_floats (hn : s.IsNormal) (hnumber : ∀ a ∈ s.endValues, w.IsNumber a) :
    ∃ converted : List (Interval (Ieee w.format)),
      List.Forall₂ (Interval.Reads w.literal?) s.toList converted ∧ Separated converted ∧
        ∀ j ∈ converted, ∀ x ∈ j.endValues, x.isNaN = false := by
  rw [IntervalSet.forall_mem_endValues] at hnumber
  obtain ⟨converted, hreads⟩ := exists_forall₂_reads fun i hi a ha =>
    FloatWidth.isSome_literal? (hnumber i hi a ha).accepts
  refine ⟨converted, hreads, ?_, ?_⟩
  · exact Separated.of_reads (FloatWidth.literal?_keepsOrder w)
      (fun i hi a ha => (hnumber i hi a ha).accepts) hreads hn.separated
  · exact forall_endValues_of_reads hreads fun i hi a ha x hx =>
      (hnumber i hi a ha).isNaN_eq_false hx

/-- A set admits a number by the cuts at its level: it covers the outer two and leaves the one in
between, or two of these three hold. -/
theorem admitsBy_iff_twoOf (hn : s.IsNormal) (hnumber : ∀ a ∈ s.endValues, w.IsNumber a)
    {v first last : Ieee w.format} (h : LevelEnds Ieee.level v first last)
    (hv : v.isNaN = false) :
    s.admitsBy (.floats w) v = true ↔
      TwoOf (s.Covers (.before (w.literal first))) (¬ s.Covers (.after (w.literal first)))
        (s.Covers (.before (w.literal last))) := by
  obtain ⟨list, hreads, hsep, hproper⟩ := exists_reads_floats hn hnumber
  -- cuts are compared among literals, and admission among the floats that they stand for
  have hcovers (p : Cut (Ieee w.format)) : CoveredBy list p ↔ s.Covers (p.map w.literal) :=
    coveredBy_of_reads (FloatWidth.literal_strictMono w)
      (fun _ _ => FloatWidth.literal?_eq_some.mp) hreads
  have hadmits : s.admitsBy (.floats w) v = list.any (·.admitsBy (.plain Ieee.lt Ieee.le) v) :=
    any_admitsBy_of_reads hreads floats_through v
  rw [hadmits, h.any_admitsBy_iff Ieee.graded hv hsep hproper, hcovers, hcovers, hcovers]
  exact Iff.rfl

/-- The complement admits the numbers that the set does not, zeros included. -/
theorem admitsBy_complement_floats (hn : s.IsNormal) (hnumber : ∀ a ∈ s.endValues, w.IsNumber a)
    {v : Ieee w.format} (hv : v.isNaN = false) :
    s.complement.admitsBy (.floats w) v = !s.admitsBy (.floats w) v := by
  obtain ⟨first, last, h⟩ := Ieee.graded.exists_levelEnds v
  have hcovers (p : Cut Scalar) (hp : p < .top) : s.complement.Covers p ↔ ¬ s.Covers p :=
    (IntervalSet.covers_complement hn).trans (and_iff_right hp)
  have hnumber' := IntervalSet.forall_endValues_complement hnumber
  rw [Bool.eq_iff_iff, Bool.not_eq_true', ← Bool.not_eq_true,
    admitsBy_iff_twoOf s.isNormal_complement hnumber' h hv, admitsBy_iff_twoOf hn hnumber h hv,
    hcovers _ (by simp), hcovers _ (by simp), hcovers _ (by simp), twoOf_not]

/-! ### Filters -/

/-- A set of numbers in normal form compiles to what its intervals admit. -/
theorem exists_compile_floats (hn : s.IsNormal) (hnumber : ∀ a ∈ s.endValues, w.IsNumber a)
    (nullAllowed : Bool) :
    ∃ f, (Domain.mk s nullAllowed).compile options w.type = .ok f ∧
      ∀ v, f.test (w.probe v) = .ok (s.admitsBy (.floats w) v) := by
  have haccepts : ∀ a ∈ s.endValues, w.type.accepts a = true :=
    fun a ha => (hnumber a ha).accepts
  have hnan : ∀ a ∈ s.endValues, ∀ x ∈ w.literal? a, x.isNaN = false :=
    fun a ha x hx => (hnumber a ha).isNaN_eq_false hx
  obtain ⟨f, hf⟩ : ∃ f, (Domain.mk s nullAllowed).compile options w.type = .ok f := by
    refine exists_compile (by cases w <;> trivial) hn haccepts ?_
    rintro list rfl hs
    exact exists_floatFilter (IntervalSet.forall_mem_endValues.mp haccepts) hn.1 hs
  refine ⟨f, hf, fun v => test_of_compile_any hf rfl ?_⟩
  rintro list rfl hadm hlist
  exact test_floatFilter hadm (IntervalSet.forall_mem_endValues.mp hnan) hlist v

end Compile

open Compile in
/-- A set of numbers in normal form and its complement both compile for a floating-point column,
to filters that answer every number in opposite ways, the zeros included. -/
theorem Domain.compile_complement_floats (options : Options) (w : FloatWidth)
    (s : IntervalSet Scalar) (nullAllowed nullAllowed' : Bool) (hn : s.IsNormal)
    (hnumber : ∀ a ∈ s.endValues, w.IsNumber a) :
    ∃ f g, (Domain.mk s nullAllowed).compile options w.type = .ok f ∧
      (Domain.mk s.complement nullAllowed').compile options w.type = .ok g ∧
      ∀ v, v.isNaN = false →
        ∃ b, f.test (w.probe v) = .ok b ∧ g.test (w.probe v) = .ok (!b) := by
  obtain ⟨f, hf, htest⟩ := exists_compile_floats hn hnumber nullAllowed
  have hnumber' : ∀ a ∈ s.complement.endValues, w.IsNumber a :=
    IntervalSet.forall_endValues_complement hnumber
  obtain ⟨g, hg, htest'⟩ := exists_compile_floats s.isNormal_complement hnumber' nullAllowed'
  refine ⟨f, g, hf, hg, fun v hv => ⟨_, htest v, ?_⟩⟩
  rw [htest', admitsBy_complement_floats hn hnumber hv]

/-- Everything but `-0` has `0` as a member and rejects it, as the filter of `-0` passes it. -/
theorem Domain.compile_complement_floats_minus_zero :
    ∃ f g, (Domain.mk (.intervals [.point (.float64 (.ofBits 0x8000000000000000))]) false).compile
        .standard .double = .ok f ∧
      (Domain.mk (IntervalSet.intervals
        [.point (.float64 (.ofBits 0x8000000000000000))]).complement true).compile
        .standard .double = .ok g ∧
      f.test (.double (.ofBits 0)) = .ok true ∧ g.test (.double (.ofBits 0)) = .ok false := by
  obtain ⟨f, g, hf, hg, hopposite⟩ := Domain.compile_complement_floats .standard .double
    (.intervals [.point (.float64 (.ofBits 0x8000000000000000))]) false true
    ⟨by simp, by decide, by decide, by decide⟩ (by
      intro a ha
      have hpoint : a = .float64 (.ofBits 0x8000000000000000) := by
        simpa [IntervalSet.endValues, IntervalSet.toList, Interval.endValues, Interval.point,
          Endpoint.value?] using ha
      exact ⟨.ofBits 0x8000000000000000, hpoint, by decide⟩)
  obtain ⟨b, hb, hb'⟩ := hopposite (.ofBits 0) (by decide)
  -- one answer is computed; the other is its opposite
  have htest : f.test (.double (.ofBits 0)) = .ok true := by
    obtain rfl := Except.ok.inj hf
    rfl
  obtain rfl : true = b := Except.ok.inj (htest.symm.trans hb)
  exact ⟨f, g, hf, hg, htest, hb'⟩

end ColumnFilter
