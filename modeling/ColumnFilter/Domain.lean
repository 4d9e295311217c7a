/-
Domains of a column.

What a predicate leaves of a column: a set of values, and whether NULL is left too. Disjunction,
conjunction and negation of predicates are `union`, `intersect` and `complement`; each acts on
the values and on the null flag alike.
-/
import ColumnFilter.Interval.Set
import ColumnFilter.Scalar

namespace ColumnFilter

/-- The values that a column may take, NULL among them or not. -/
structure Domain where
  values : IntervalSet Scalar
  nullAllowed : Bool
deriving DecidableEq

namespace Domain

/-! ### Making domains -/

/-- Every value and NULL. -/
def all : Domain := ⟨.all, true⟩

/-- Nothing. -/
def none : Domain := ⟨.none, false⟩

/-- NULL alone. -/
def onlyNull : Domain := ⟨.none, true⟩

/-- Every value, not NULL. -/
def notNull : Domain := ⟨.all, false⟩

/-- One value. -/
def single (a : Scalar) : Domain := ⟨.ofIntervals [.point a], false⟩

/-- The listed values. -/
def multiple (values : List Scalar) : Domain := ⟨.ofValues values, false⟩

/-- The values of an interval. -/
def interval (i : Interval Scalar) : Domain := ⟨.ofIntervals [i], false⟩

/-! ### Tests -/

/-- Whether the domain is every value and NULL. -/
def isAll (d : Domain) : Bool := d.values.isAll && d.nullAllowed

/-- Whether the domain is nothing. -/
def isNone (d : Domain) : Bool := d.values.isNone && !d.nullAllowed

/-- Whether the domain is NULL alone. -/
def isOnlyNull (d : Domain) : Bool := d.values.isNone && d.nullAllowed

/-! ### Algebra -/

/-- The same values, and NULL. -/
def orNull (d : Domain) : Domain := ⟨d.values, true⟩

/-- What either domain allows. -/
def union (d e : Domain) : Domain :=
  ⟨d.values.union e.values, d.nullAllowed || e.nullAllowed⟩

/-- What both domains allow. -/
def intersect (d e : Domain) : Domain :=
  ⟨d.values.intersect e.values, d.nullAllowed && e.nullAllowed⟩

/-- What the domain does not allow. -/
def complement (d : Domain) : Domain := ⟨d.values.complement, !d.nullAllowed⟩

/-! ### Text -/

/-- The values, and ` OR NULL` when NULL is allowed. -/
def text (d : Domain) : String :=
  d.values.text Scalar.text ++ if d.nullAllowed then " OR NULL" else ""

end Domain

end ColumnFilter
