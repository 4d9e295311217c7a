/-
Strict compilation accepts the lists that are normal already.

* `Compile.exists_listFilter`: the family of any column makes a filter of a separated list, when its
  bounds are accepted and of one kind. No family has an order of its own that could object.
* `Domain.compile_strict`: with validation a list compiles exactly when normalization leaves it
  as it is; and a list with an interval at fault is refused for the first such interval.

The normalizer merges along a sorted list and the validator compares neighbours. They meet in
`Separated`: it is what the merge leaves alone (`IntervalSet.toList_ofIntervals_eq_self_iff`) and
what the comparison of neighbours amounts to when no interval is empty.
-/
import ColumnFilter.Proofs.Compile.Bytes
import ColumnFilter.Proofs.Compile.Decimals
import ColumnFilter.Proofs.Compile.Faults
import ColumnFilter.Proofs.Compile.Floats

namespace ColumnFilter

namespace Compile

variable {options : Options} {type : SqlType} {list : List (Interval Scalar)} {n : Bool}

/-- Every family makes a filter of a separated list with accepted bounds of one kind. -/
theorem exists_listFilter (haccepts : ∀ i ∈ list, ∀ a ∈ i.endValues, type.accepts a = true)
    (hkind : ∃ kind, ∀ i ∈ list, ∀ a ∈ i.endValues, a.kind = kind) (hne : list ≠ [])
    (hs : Separated list) : ∃ f, listFilter options type list n = .ok f := by
  have hinteger (h : type.typeClass = .integer) : ∃ f, listFilter options type list n = .ok f := by
    rw [listFilter_integer h]
    exact exists_integerFilter h hs haccepts hkind
  have hbytes (h : type.typeClass = .bytes) : ∃ f, listFilter options type list n = .ok f := by
    rw [listFilter_bytes h]
    exact exists_bytesFilter h haccepts hne hs
  cases type with
  | boolean => exact ⟨booleanFilter list n, rfl⟩
  | tinyint | smallint | integer | bigint | date | timestamp => exact hinteger rfl
  | real => exact exists_floatFilter (w := .real) haccepts hne hs
  | double => exact exists_floatFilter (w := .double) haccepts hne hs
  | decimal precision scale =>
    rcases Nat.lt_or_ge SqlType.maxShortPrecision precision with hlong | hshort
    · obtain ⟨kind, hkind⟩ := hkind
      exact exists_decimalFilter hlong haccepts hkind hne hs
    · exact hinteger (if_pos hshort)
  | varchar | char | varbinary => exact hbytes rfl

/-- A strict check asks for a separated list. -/
theorem separated_of_check (hstrict : options.validateDomains = true)
    (h : check options type list = .ok ()) : Separated list := by
  obtain ⟨hadm, hchain⟩ := check_eq_ok.mp h
  exact ⟨fun i hi => (hadm i hi).2, hchain hstrict⟩

theorem check_of_separated (haccepts : ∀ i ∈ list, ∀ a ∈ i.endValues, type.accepts a = true)
    (hs : Separated list) : check options type list = .ok () :=
  check_eq_ok.mpr ⟨fun i hi => ⟨haccepts i hi, hs.nonempty i hi⟩, fun _ => hs.chain⟩

end Compile

open Compile in
/-- With validation, a list whose bounds are accepted and of one kind compiles exactly when it is
its own normal form. A list with an interval at fault, whatever its bounds, is refused for the
first such interval. -/
theorem Domain.compile_strict (options : Options) (hstrict : options.validateDomains = true)
    (type : SqlType) (htype : type.IsProper) (list : List (Interval Scalar)) (nullAllowed : Bool) :
    ((∀ i ∈ list, ∀ a ∈ i.endValues, type.accepts a = true) →
      (∃ kind, ∀ i ∈ list, ∀ a ∈ i.endValues, a.kind = kind) →
      ((∃ f, (Domain.mk (.unchecked list) nullAllowed).compile options type = .ok f) ↔
        (IntervalSet.ofIntervals list).toList = list)) ∧
    ∀ n, IsFaultyAt true type list n → (∀ m < n, ¬ IsFaultyAt true type list m) →
      (∃ e, FaultAt true type list n e) ∧
      ∀ e, FaultAt true type list n e →
        (Domain.mk (.unchecked list) nullAllowed).compile options type = .error e := by
  constructor
  · intro haccepts hkind
    rw [IntervalSet.toList_ofIntervals_eq_self_iff]
    constructor
    · -- what compiles has passed the check, and what the check passes is separated
      rintro ⟨f, hf⟩
      exact separated_of_check hstrict (check_of_valuesFilter hf)
    · intro hs
      have hcheck : check options type list = .ok () := check_of_separated haccepts hs
      exact exists_valuesFilter_of_check htype hcheck fun hne =>
        exists_listFilter haccepts hkind hne hs
  · rintro n ⟨i, hi, hfaulty⟩ hbefore
    obtain ⟨e, he⟩ := exists_fault n hfaulty
    refine ⟨⟨e, i, hi, he⟩, fun e he => ?_⟩
    have hcheck : check options type list = .error e := by
      rw [check_eq_error_iff, hstrict]
      exact ⟨n, he, hbefore⟩
    exact valuesFilter_eq_error_of_check htype hcheck

/-- Two points compile; of an interval that ends at a text, the upper bound is reported. -/
theorem Domain.compile_strict_points :
    (∃ f, (Domain.mk (.unchecked [.point (.int64 ⟨1, by decide, by decide⟩),
        .point (.int64 ⟨5, by decide, by decide⟩)]) true).compile .standard .bigint = .ok f) ∧
      (Domain.mk (.unchecked [.point (.int64 ⟨1, by decide, by decide⟩),
        ⟨.inclusive (.int64 ⟨5, by decide, by decide⟩), .exclusive (.utf8 "a")⟩]) true).compile
          .standard .bigint = .error (.typeMismatch .bigint (.utf8 "a")) := by
  constructor
  · have h := (Domain.compile_strict .standard rfl .bigint trivial
      [.point (.int64 ⟨1, by decide, by decide⟩), .point (.int64 ⟨5, by decide, by decide⟩)] true).1
    refine (h (by decide) ⟨.int64, by decide⟩).mpr ?_
    exact IntervalSet.toList_ofIntervals_eq_self_iff.mpr ⟨by decide, by decide⟩
  · have h := (Domain.compile_strict .standard rfl .bigint trivial
      [.point (.int64 ⟨1, by decide, by decide⟩),
        ⟨.inclusive (.int64 ⟨5, by decide, by decide⟩), .exclusive (.utf8 "a")⟩] true).2 1
    refine (h ⟨_, rfl, .inl ⟨.utf8 "a", by decide, rfl⟩⟩ ?_).2 _ ⟨_, rfl, ?_⟩
    · -- the point before it is not at fault
      rintro m hm ⟨i, hi, hfault⟩
      obtain rfl : m = 0 := by omega
      obtain rfl := Option.some.inj hi
      rcases hfault with ⟨a, ha, hno⟩ | hempty | ⟨-, p, hp, -⟩
      · have hbounds : ∀ a ∈ (Interval.point (Scalar.int64 ⟨1, by decide, by decide⟩)).endValues,
            SqlType.bigint.accepts a = true := by decide
        rw [hbounds a ha] at hno
        cases hno
      · exact absurd hempty (by decide)
      · cases hp
    · exact .upper (by decide) rfl rfl

end ColumnFilter
