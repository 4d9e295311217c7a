/-
Testing the literals that a column accepts.

Three tables meet here: the literals that a type accepts, the filters that a column of the type
compiles to, and the test that a literal is given, which depends on its kind and, for decimals, on
the filter.

* `SqlType.typeClass_of_accepts`: an accepted literal is of the class of the column, but for
  decimals in short columns and integers in wide ones;
* `Compile.typeClass?_of_valuesFilter`: so is a compiled filter, unless it is constant;
* `Domain.testScalar_of_compile`: a compiled filter answers every literal that its column accepts,
  but for integers in a wide decimal column, which it refuses unless it is constant.

A short decimal column has its decimals brought to integers before the test. A wide one has its
integers brought to decimals where its bounds are compiled, and not where it is tested.
-/
import ColumnFilter.Proofs.Compile.Bytes
import ColumnFilter.Proofs.Compile.Integers
import ColumnFilter.Proofs.Filter.Families

namespace ColumnFilter

/-! ### Accepted literals -/

theorem SqlType.typeClass_of_accepts {type : SqlType} {a : Scalar} (h : type.accepts a = true) :
    a.typeClass = type.typeClass ∨
      (type.typeClass = .integer ∧ ∃ n, a = .decimal128 n ∧ n.toBigint?.isSome = true) ∨
      type.typeClass = .longDecimal ∧ a.kind = .int64 := by
  cases type with
  | decimal precision scale =>
    -- a decimal column takes literals of two kinds, and one of them is of another class
    rcases Nat.lt_or_ge maxShortPrecision precision with hlong | hshort
    · have hclass : (decimal precision scale).typeClass = .longDecimal := typeClass_of_long hlong
      cases a with
      | int64 n => exact .inr (.inr ⟨hclass, rfl⟩)
      | decimal128 n => exact .inl hclass.symm
      | _ => cases h
    · have hclass : (decimal precision scale).typeClass = .integer := if_pos hshort
      cases a with
      | int64 n => exact .inl hclass.symm
      | decimal128 n =>
        have hfits : n.toBigint?.isSome = true := by
          simpa [accepts, hshort.not_gt] using h
        exact .inr (.inl ⟨hclass, n, rfl, hfits⟩)
      | _ => cases h
  | _ => cases a <;> first | exact .inl rfl | cases h

namespace Compile

variable {options : Options} {type : SqlType} {list : List (Interval Scalar)} {n : Bool} {f : Filter}

/-! ### The class of a filter -/

theorem typeClass?_of_booleanFilter :
    (booleanFilter list n).constant?.isSome = true ∨
      (booleanFilter list n).typeClass? = some .boolean := by
  rw [booleanFilter]
  cases hfalse : list.any (·.contains (.boolean false)) <;>
    cases htrue : list.any (·.contains (.boolean true)) <;>
      simp [Filter.typeClass?, hfalse, htrue]

theorem typeClass?_of_integerFilter (h : integerFilter options type list n = .ok f) :
    f.constant?.isSome = true ∨ f.typeClass? = some .integer := by
  obtain ⟨ranges, -, hf⟩ := integerFilter_eq_ok.mp h
  cases hf with
  | nothing => simp
  | range _ | set _ _ _ | union _ _ _ => exact .inr rfl

/-- One span and a union of spans are of one class, that of their family. -/
theorem typeClass?_of_spanFilter {α : Type} [Ord α] [SpanValue α] (F : SpanFamily α)
    {extract : Scalar → Option α} {c : TypeClass}
    (hspan : ∀ s, (Filter.span (F.span s)).typeClass? = some c)
    (hunion : ∀ u, (Filter.spanUnion (F.union u)).typeClass? = some c)
    (h : spanFilter F.span type extract list n = .ok f) : f.typeClass? = some c := by
  obtain ⟨converted, -, ⟨j, -, rfl⟩ | ⟨u, -, -, rfl⟩⟩ := spanFilter_eq_ok.mp h
  · exact hspan _
  · exact hunion u

theorem typeClass?_of_bytesFilter (h : bytesFilter options type list n = .ok f) :
    f.typeClass? = some .bytes := by
  rcases bytesFilter_eq_ok.mp h with ⟨-, _, _, -, -, rfl⟩ | ⟨-, h⟩
  · rfl
  · exact typeClass?_of_spanFilter .bytes (fun _ => rfl) (fun _ => rfl) h

theorem typeClass?_of_listFilter (h : listFilter options type list n = .ok f) :
    f.constant?.isSome = true ∨ f.typeClass? = some type.typeClass := by
  rw [listFilter] at h
  split at h <;> rename_i hclass <;> rw [hclass]
  · obtain rfl := Except.ok.inj h
    exact typeClass?_of_booleanFilter
  · exact typeClass?_of_integerFilter h
  · exact .inr (typeClass?_of_spanFilter .double (fun _ => rfl) (fun _ => rfl) h)
  · exact .inr (typeClass?_of_spanFilter .real (fun _ => rfl) (fun _ => rfl) h)
  · exact .inr (typeClass?_of_spanFilter .decimal (fun _ => rfl) (fun _ => rfl) h)
  · exact .inr (typeClass?_of_bytesFilter h)

/-- A compiled filter is constant, or of the class of its column. -/
theorem typeClass?_of_valuesFilter {values : IntervalSet Scalar}
    (h : valuesFilter options type values n = .ok f) :
    f.constant?.isSome = true ∨ f.typeClass? = some type.typeClass := by
  rcases valuesFilter_eq_ok h with ⟨-, rfl⟩ | ⟨-, rfl⟩ | ⟨list, -, -, -, hlist⟩
  · simp
  · simp
  · exact typeClass?_of_listFilter hlist

/-- The bounds of a set that compiles are accepted. -/
theorem accepts_of_valuesFilter {values : IntervalSet Scalar}
    (h : valuesFilter options type values n = .ok f) :
    ∀ a ∈ values.endValues, type.accepts a = true := by
  rw [IntervalSet.forall_mem_endValues]
  rcases valuesFilter_eq_ok h with ⟨hnil, -⟩ | ⟨hall, -⟩ | ⟨list, rfl, -, hadm, -⟩
  · rw [hnil]
    exact fun i hi => nomatch hi
  · rw [IntervalSet.toList_of_isAll hall]
    exact List.forall_mem_singleton.mpr fun a ha => nomatch ha
  · exact fun i hi => (hadm i hi).1

end Compile

/-! ### Compiled filters -/

open Compile in
/-- A compiled filter answers every literal that its column accepts, the bounds of its domain
among them, but for the integers of a wide decimal column. Those it refuses to test, unless it is
constant. -/
theorem Domain.testScalar_of_compile (options : Options) (type : SqlType) (d : Domain) {f : Filter}
    (h : d.compile options type = .ok f) :
    (∀ a ∈ d.values.endValues, type.accepts a = true) ∧
      ∀ a, type.accepts a = true →
        (¬ (type.typeClass = .longDecimal ∧ a.kind = .int64 ∧ f.constant?.isSome = false) →
          ∃ b, f.testScalar (some a) = .ok b) ∧
        (type.typeClass = .longDecimal → a.kind = .int64 → f.constant?.isSome = false →
          f.testScalar (some a) = .error (.unsupported f.kind .integer)) := by
  refine ⟨accepts_of_valuesFilter h, fun a ha => ?_⟩
  rcases typeClass?_of_valuesFilter h with hconstant | hclass
  · obtain ⟨b, hb⟩ := Option.isSome_iff_exists.mp hconstant
    refine ⟨fun _ => ⟨b, Filter.testValue_of_constant? hb a⟩, fun _ _ hnot => ?_⟩
    rw [hconstant] at hnot
    cases hnot
  · have hnot : f.constant?.isSome = false := by
      rw [Filter.constant?_eq_none hclass]
      rfl
    rcases SqlType.typeClass_of_accepts ha with hliteral | ⟨hshort, n, rfl, hn⟩ | ⟨hlong, hint⟩
    · refine ⟨fun _ => Filter.exists_testValue (hliteral ▸ hclass), fun hlong hint _ => ?_⟩
      -- an integer is of the class of another column
      rw [hlong] at hliteral
      cases a <;> cases hint
      cases hliteral
    · refine ⟨fun _ => Filter.exists_testValue_decimal (hshort ▸ hclass) hn, fun _ hint => ?_⟩
      cases hint
    · refine ⟨fun hanswered => absurd ⟨hlong, hint, hnot⟩ hanswered, fun _ _ _ => ?_⟩
      cases a with
      | int64 n =>
        refine Filter.test_eq_error hclass ?_
        rw [hlong]
        exact fun h => nomatch h
      | _ => cases hint

/-- A short decimal column takes its bound back as a decimal and as an integer. -/
theorem Domain.testScalar_of_compile_short_decimal :
    ∃ f, (Domain.mk (.intervals [.upTo (.decimal128 ⟨500, by decide, by decide⟩)]) false).compile
        .standard (.decimal 10 2) = .ok f ∧
      (∃ b, f.testScalar (some (.decimal128 ⟨500, by decide, by decide⟩)) = .ok b) ∧
      ∃ b, f.testScalar (some (.int64 ⟨500, by decide, by decide⟩)) = .ok b := by
  obtain ⟨f, hf⟩ : ∃ f, (Domain.mk (.intervals
      [.upTo (.decimal128 ⟨500, by decide, by decide⟩)]) false).compile
        .standard (.decimal 10 2) = .ok f := ⟨_, rfl⟩
  have h := (Domain.testScalar_of_compile .standard (.decimal 10 2) _ hf).2
  refine ⟨f, hf, (h _ (by decide)).1 ?_, (h _ (by decide)).1 ?_⟩
  · exact fun hwide => absurd hwide.1 (by decide)
  · exact fun hwide => absurd hwide.1 (by decide)

/-- A wide decimal column accepts an integer as the bound of its domain, and refuses to test it. -/
theorem Domain.testScalar_of_compile_wide_decimal :
    ∃ f, (Domain.mk (.intervals [.point (.int64 ⟨5, by decide, by decide⟩)]) false).compile
        .standard (.decimal 20 0) = .ok f ∧
      (SqlType.decimal 20 0).accepts (.int64 ⟨5, by decide, by decide⟩) = true ∧
      f.testScalar (some (.int64 ⟨5, by decide, by decide⟩))
        = .error (.unsupported .decimalRange .integer) :=
  ⟨_, rfl, rfl, rfl⟩

end ColumnFilter
