/-
Wide decimal columns compile to filters that hold the same integers.

* `Domain.compile_decimals_exact`: a filter compiled for a decimal column of more than eighteen
  digits passes an unscaled integer exactly when an interval of the domain holds it, whether the
  integer comes whole or as two words; and a domain in normal form compiles.

Bounds may be of either integer kind, but of one kind in a domain: the order of literals is that
of their integers within a kind only (`Compile.wideDecimal?_keepsOrder`).
-/
import ColumnFilter.Proofs.Compile.Integers
import ColumnFilter.Proofs.Compile.Spans

namespace ColumnFilter

namespace Compile

variable {options : Options} {precision scale : Nat} {kind : ScalarKind}
  {list : List (Interval Scalar)} {n : Bool} {f : Filter}

/-! ### Bounds of wide decimal columns -/

theorem wideDecimals_through :
    Reading.integers.Through wideDecimal? IntIn.val SpanValue.lt SpanValue.le where
  read_eq {a c} h := by
    cases a with
    | int64 n =>
      cases h
      rfl
    | decimal128 n =>
      cases h
      rfl
    | _ => cases h
  lt_eq _ _ := rfl
  le_eq _ _ := rfl

theorem isSome_wideDecimal? {a : Scalar}
    (h : (SqlType.decimal precision scale).accepts a = true) : (wideDecimal? a).isSome = true := by
  cases a with
  | int64 n => rfl
  | decimal128 n => rfl
  | _ => cases h

/-- Literals of one kind are in the order of their integers, in 64 bits or in 128. -/
theorem wideDecimal?_keepsOrder (kind : ScalarKind) :
    KeepsOrder wideDecimal? fun a => a.kind = kind := by
  intro a b c d ha hb hc hd
  have hab : a.kind = b.kind := ha.trans hb.symm
  cases a with
  | int64 n =>
    cases b <;> cases hab
    cases hc
    cases hd
    rfl
  | decimal128 n =>
    cases b <;> cases hab
    cases hc
    cases hd
    rfl
  | _ => cases hc

theorem accepts_wideDecimal (hlong : SqlType.maxShortPrecision < precision) {a : Scalar}
    (h : a.kind = .int64 ∨ a.kind = .decimal128) :
    (SqlType.decimal precision scale).accepts a = true := by
  cases a with
  | int64 n => rfl
  | decimal128 n => simp [SqlType.accepts, hlong]
  | _ => simp [Scalar.kind] at h

/-! ### Filters -/

theorem listFilter_wideDecimal (hlong : SqlType.maxShortPrecision < precision) :
    listFilter options (.decimal precision scale) list n
      = spanFilter .decimal (.decimal precision scale) wideDecimal? list n := by
  rw [listFilter, SqlType.typeClass_of_long hlong]

/-- The filters of a wide decimal column test integers as the intervals do. -/
theorem test_decimalFilter (hlong : SqlType.maxShortPrecision < precision)
    (hadm : Admissible (.decimal precision scale) list)
    (hkind : ∀ i ∈ list, ∀ a ∈ i.endValues, a.kind = kind)
    (h : listFilter options (.decimal precision scale) list n = .ok f) (v : Hugeint) :
    f.test? (.decimal v) = some (list.any (·.admitsBy .integers v.val)) := by
  rw [listFilter_wideDecimal hlong] at h
  exact test_spanFilter .decimal Hugeint.graded (wideDecimal?_keepsOrder kind) wideDecimals_through
    hadm hkind (fun _ _ _ _ _ _ => trivial) h v

theorem exists_decimalFilter (hlong : SqlType.maxShortPrecision < precision)
    (haccepts : ∀ i ∈ list, ∀ a ∈ i.endValues,
      (SqlType.decimal precision scale).accepts a = true)
    (hkind : ∀ i ∈ list, ∀ a ∈ i.endValues, a.kind = kind) (hne : list ≠ [])
    (hs : Separated list) :
    ∃ f, listFilter options (.decimal precision scale) list n = .ok f := by
  have hk : KeepsOrder wideDecimal? fun a =>
      (SqlType.decimal precision scale).accepts a = true ∧ a.kind = kind :=
    (wideDecimal?_keepsOrder kind).mono fun _ => And.right
  rw [listFilter_wideDecimal hlong]
  exact exists_spanFilter .decimal hk (fun a ha => isSome_wideDecimal? ha.1)
    (fun i hi a ha => ⟨haccepts i hi a ha, hkind i hi a ha⟩) hne hs

end Compile

open Compile in
/-- A filter compiled for a wide decimal column, from a domain with bounds of one integer kind,
passes the unscaled integers that an interval of the domain holds, given whole or in two words. A
domain in normal form compiles. -/
theorem Domain.compile_decimals_exact (options : Options) (precision scale : Nat)
    (hlong : 19 ≤ precision) (hmax : precision ≤ 38) (d : Domain)
    (hkinds : (∀ a ∈ d.values.endValues, a.kind = .decimal128) ∨
      ∀ a ∈ d.values.endValues, a.kind = .int64) :
    (∀ f, d.compile options (.decimal precision scale) = .ok f → ∀ v : Hugeint,
      f.test (.decimal v) = .ok (d.values.admitsBy .integers v.val) ∧
      ∀ high low, v.high = high ∧ v.low = low ∨ Hugeint.ofWords high low = v →
        f.testWords high low = .ok (d.values.admitsBy .integers v.val)) ∧
    (d.values.IsNormal → ∃ f, d.compile options (.decimal precision scale) = .ok f) := by
  have hlong' : SqlType.maxShortPrecision < precision := hlong
  have haccepts : ∀ a ∈ d.values.endValues,
      (SqlType.decimal precision scale).accepts a = true := by
    intro a ha
    exact accepts_wideDecimal hlong' (hkinds.symm.imp (· a ha) (· a ha))
  obtain ⟨kind, hkind⟩ : ∃ kind, ∀ a ∈ d.values.endValues, a.kind = kind :=
    hkinds.elim (fun h => ⟨_, h⟩) fun h => ⟨_, h⟩
  constructor
  · intro f hf v
    have htest : f.test (.decimal v) = .ok (d.values.admitsBy .integers v.val) := by
      refine test_of_compile_any hf rfl fun list hd hadm hlist => ?_
      rw [hd, IntervalSet.forall_mem_endValues] at hkind
      exact test_decimalFilter hlong' hadm hkind hlist v
    refine ⟨htest, fun high low hwords => ?_⟩
    -- words are put together before the test, so they are the value or make it
    have hv : Hugeint.ofWords high low = v := by
      rcases hwords with ⟨rfl, rfl⟩ | hv
      · exact v.ofWords_high_low
      · exact hv
    rw [Filter.testWords, hv, htest]
  · intro hn
    refine exists_compile ⟨by omega, hmax⟩ hn haccepts fun list hd hlist => ?_
    rw [hd] at hn haccepts hkind
    rw [IntervalSet.forall_mem_endValues] at haccepts hkind
    exact exists_decimalFilter hlong' haccepts hkind hn.1 hlist

/-- Everything but `-1`, whose two words are all ones. -/
theorem Domain.compile_decimals_exact_minus_one :
    ∃ f, (Domain.mk (.intervals
        [.below (.decimal128 ⟨-1, by decide, by decide⟩),
          .above (.decimal128 ⟨-1, by decide, by decide⟩)]) false).compile
        .standard (.decimal 38 2) = .ok f ∧
      f.test (.decimal .least) = .ok true ∧
      f.testWords ⟨-1, by decide, by decide⟩ ⟨18446744073709551615, by decide, by decide⟩
        = .ok false := by
  have h := Domain.compile_decimals_exact .standard 38 2 (by decide) (by decide) (Domain.mk
    (.intervals [.below (.decimal128 ⟨-1, by decide, by decide⟩),
      .above (.decimal128 ⟨-1, by decide, by decide⟩)]) false) (.inl (by decide))
  obtain ⟨f, hf⟩ := h.2 ⟨by simp, by simp, by decide, by decide⟩
  refine ⟨f, hf, (h.1 f hf _).1, (h.1 f hf ⟨-1, by decide, by decide⟩).2 _ _ (.inl ?_)⟩
  decide

end ColumnFilter
