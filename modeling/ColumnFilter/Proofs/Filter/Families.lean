/-
Which values a filter answers.

Probes, literals and filters each have a class of columns that they belong to, but for the constant
filters, which belong to none.

* `Filter.isSome_test?`: a filter answers the probes of its class, and a constant one all of them;
* `Filter.testScalar_of_constant?`: a constant filter answers every literal, whatever its kind;
* `Filter.exists_testValue`: any other answers the literals of its class.
-/
import ColumnFilter.Filter.Probe
import ColumnFilter.SqlType

namespace ColumnFilter

/-! ### Classes -/

/-- The class of the columns in which a value is tested. -/
def Probe.typeClass : Probe → TypeClass
  | boolean _ => .boolean
  | integer _ => .integer
  | double _ => .double
  | real _ => .real
  | decimal _ => .longDecimal
  | bytes _ => .bytes

/-- The class of the columns whose literals are of a kind. -/
def Scalar.typeClass : Scalar → TypeClass
  | boolean _ => .boolean
  | int64 _ => .integer
  | float32 _ => .real
  | float64 _ => .double
  | decimal128 _ => .longDecimal
  | utf8 _ => .bytes
  | binary _ => .bytes

namespace Filter

variable {f : Filter} {b : Bool} {c : TypeClass}

/-- The class of the columns that a filter is for, unless it is constant. -/
def typeClass? : Filter → Option TypeClass
  | boolean _ _ => some .boolean
  | integerRange _ => some .integer
  | integerUnion _ => some .integer
  | integerSet _ => some .integer
  | span (.double _) => some .double
  | span (.real _) => some .real
  | span (.decimal _) => some .longDecimal
  | span (.bytes _) => some .bytes
  | spanUnion (.double _) => some .double
  | spanUnion (.real _) => some .real
  | spanUnion (.decimal _) => some .longDecimal
  | spanUnion (.bytes _) => some .bytes
  | bytesSet _ => some .bytes
  | _ => none

theorem isInteger_iff : f.isInteger = true ↔ f.typeClass? = some .integer := by
  rcases f with _ | _ | _ | _ | _ | _ | _ | _ | (_ | _ | _ | _) | (_ | _ | _ | _) | _ <;>
    simp [isInteger, typeClass?]

/-- A filter of a class is not constant. -/
theorem constant?_eq_none (h : f.typeClass? = some c) : f.constant? = none := by
  cases f <;> first | rfl | cases h

/-! ### Probes -/

/-- A filter that is not constant answers the probes of its class. -/
theorem isSome_test? (h : f.typeClass? = some c) (v : Probe) :
    (f.test? v).isSome = true ↔ v.typeClass = c := by
  -- the kinds of filters and of probes side by side
  rcases f with _ | _ | _ | _ | _ | _ | _ | _ | (_ | _ | _ | _) | (_ | _ | _ | _) | _ <;>
    cases h <;> cases v <;> simp [test?, constant?, Probe.typeClass]

theorem test_of_constant? (h : f.constant? = some b) (v : Probe) : f.test v = .ok b := by
  rw [test, test?_of_constant? h]

theorem exists_test (h : f.typeClass? = some c) {v : Probe} (hv : v.typeClass = c) :
    ∃ b, f.test v = .ok b := by
  obtain ⟨b, hb⟩ := Option.isSome_iff_exists.mp ((isSome_test? h v).mpr hv)
  exact ⟨b, by rw [test, hb]⟩

theorem test_eq_error (h : f.typeClass? = some c) {v : Probe} (hv : v.typeClass ≠ c) :
    f.test v = .error (.unsupported f.kind v.kind) := by
  have hnone : f.test? v = none := by
    rw [← Option.not_isSome_iff_eq_none, isSome_test? h v]
    exact hv
  rw [test, hnone]

/-! ### Literals -/

/-- A constant filter has no need to look at a literal. -/
theorem testValue_of_constant? (h : f.constant? = some b) (a : Scalar) :
    f.testValue a = .ok b := by
  cases a with
  | decimal128 n =>
    have hinteger : ¬ f.isInteger = true := by
      rw [isInteger_iff]
      intro hclass
      rw [constant?_eq_none hclass] at h
      cases h
    rw [testValue, if_neg hinteger]
    exact test_of_constant? h _
  | _ => exact test_of_constant? h _

/-- The answer to a slot without a look at its value: the flag for NULL, `outcome` for a value. -/
def unseen {α : Type} (f : Filter) (outcome : Bool) : Option α → Bool
  | none => f.nullAllowed
  | some _ => outcome

theorem testScalar_of_constant? (h : f.constant? = some b) (slot : Option Scalar) :
    f.testScalar slot = .ok (f.unseen b slot) := by
  cases slot with
  | none => rfl
  | some a => exact testValue_of_constant? h a

/-- A filter answers the literals of its class. -/
theorem exists_testValue {a : Scalar} (h : f.typeClass? = some a.typeClass) :
    ∃ b, f.testValue a = .ok b := by
  cases a with
  | decimal128 n =>
    have hinteger : ¬ f.isInteger = true := by
      rw [isInteger_iff, h]
      exact fun h => nomatch h
    rw [testValue, if_neg hinteger]
    exact exists_test h rfl
  | _ => exact exists_test h rfl

/-- A filter over integers answers the decimals that fit in 64 bits. -/
theorem exists_testValue_decimal {n : Hugeint} (h : f.typeClass? = some .integer)
    (hn : n.toBigint?.isSome = true) : ∃ b, f.testValue (.decimal128 n) = .ok b := by
  obtain ⟨k, hk⟩ := Option.isSome_iff_exists.mp hn
  rw [testValue, if_pos (isInteger_iff.mpr h), testShortDecimal, hk]
  exact exists_test h rfl

end Filter

end ColumnFilter
