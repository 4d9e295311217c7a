/-
Combinations of domains.

A combination is built from sets of listed intervals and values by disjunction, conjunction,
negation and `OR NULL`. It means two Boolean functions: which values satisfy it
(`Combination.holds`) and whether NULL does (`Combination.allowsNull`). The domain that it
evaluates to (`Combination.toDomain`) has that meaning, and its values are in normal form
(`Combination.toDomain_correct`), however long the chain of operations.
-/
import ColumnFilter.Domain
import ColumnFilter.Proofs.Interval.Algebra
import ColumnFilter.Proofs.Order.Linear

namespace ColumnFilter.Domain

/-- A combination of sets of scalars, each with a null flag of its own. -/
inductive Combination where
  | everything (nullAllowed : Bool)
  | nothing (nullAllowed : Bool)
  | ofIntervals (list : List (Interval Scalar)) (nullAllowed : Bool)
  | ofValues (values : List Scalar) (nullAllowed : Bool)
  | union (c d : Combination)
  | intersect (c d : Combination)
  | complement (c : Combination)
  | orNull (c : Combination)

namespace Combination

/-- The domain that a combination evaluates to. -/
def toDomain : Combination → Domain
  | everything nullAllowed => ⟨.all, nullAllowed⟩
  | nothing nullAllowed => ⟨.none, nullAllowed⟩
  | ofIntervals list nullAllowed => ⟨.ofIntervals list, nullAllowed⟩
  | ofValues values nullAllowed => ⟨.ofValues values, nullAllowed⟩
  | union c d => c.toDomain.union d.toDomain
  | intersect c d => c.toDomain.intersect d.toDomain
  | complement c => c.toDomain.complement
  | orNull c => c.toDomain.orNull

/-- Whether a value satisfies a combination. -/
def holds : Combination → Scalar → Bool
  | everything _, _ => true
  | nothing _, _ => false
  | ofIntervals list _, v => list.any (·.contains v)
  | ofValues values _, v => v ∈ values
  | union c d, v => c.holds v || d.holds v
  | intersect c d, v => c.holds v && d.holds v
  | complement c, v => !c.holds v
  | orNull c, v => c.holds v

/-- Whether NULL satisfies a combination. -/
def allowsNull : Combination → Bool
  | everything nullAllowed => nullAllowed
  | nothing nullAllowed => nullAllowed
  | ofIntervals _ nullAllowed => nullAllowed
  | ofValues _ nullAllowed => nullAllowed
  | union c d => c.allowsNull || d.allowsNull
  | intersect c d => c.allowsNull && d.allowsNull
  | complement c => !c.allowsNull
  | orNull _ => true

/-- Every combination evaluates to a set in normal form. -/
theorem isNormal_values (c : Combination) : c.toDomain.values.IsNormal := by
  induction c with
  | everything => trivial
  | nothing => trivial
  | ofIntervals list => exact IntervalSet.isNormal_ofIntervals list
  | ofValues values => exact IntervalSet.isNormal_ofIntervals _
  | union c d ihc ihd => exact IntervalSet.isNormal_union ihc ihd
  | intersect c d ihc ihd => exact IntervalSet.isNormal_intersect ihc ihd
  | complement c => exact IntervalSet.isNormal_complement _
  | orNull c ih => exact ih

theorem contains_values (c : Combination) (v : Scalar) :
    c.toDomain.values.contains v = c.holds v := by
  induction c with
  | everything => rfl
  | nothing => rfl
  | ofIntervals list => exact IntervalSet.contains_ofIntervals v
  | ofValues values => exact IntervalSet.contains_ofValues v
  | union c d ihc ihd => rw [holds, ← ihc, ← ihd]; exact IntervalSet.contains_union v
  | intersect c d ihc ihd => rw [holds, ← ihc, ← ihd]; exact IntervalSet.contains_intersect v
  | complement c ih =>
    rw [holds, ← ih]
    exact IntervalSet.contains_complement c.isNormal_values v
  | orNull c ih => exact ih

theorem nullAllowed_toDomain (c : Combination) : c.toDomain.nullAllowed = c.allowsNull := by
  induction c with
  | union c d ihc ihd => rw [allowsNull, ← ihc, ← ihd]; rfl
  | intersect c d ihc ihd => rw [allowsNull, ← ihc, ← ihd]; rfl
  | complement c ih => rw [allowsNull, ← ih]; rfl
  | _ => rfl

/-- **Evaluating a combination keeps its meaning and the normal form.** -/
theorem toDomain_correct (c : Combination) :
    c.toDomain.values.IsNormal ∧ (∀ v, c.toDomain.values.contains v = c.holds v) ∧
      c.toDomain.nullAllowed = c.allowsNull :=
  ⟨c.isNormal_values, c.contains_values, c.nullAllowed_toDomain⟩

end Combination

end ColumnFilter.Domain
