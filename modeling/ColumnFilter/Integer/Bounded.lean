/-
Integers kept within fixed ends.

* `IntIn lo hi` is an integer together with the proof that it lies between `lo` and `hi`.
* `IntIn.ofInt?` accepts exactly the integers between the ends (`IntIn.ofInt?_eq_some_iff`).
* `IntIn.next?` and `IntIn.prev?` step to a neighbour and stop at the ends.
* The comparison of values is a lawful total order.
-/
namespace ColumnFilter

/-- An integer between `lo` and `hi`, both ends included. -/
structure IntIn (lo hi : Int) where
  val : Int
  lo_le : lo ≤ val
  le_hi : val ≤ hi
deriving DecidableEq

namespace IntIn

variable {lo hi : Int}

@[ext] theorem ext {a b : IntIn lo hi} (h : a.val = b.val) : a = b := by
  cases a; cases b; cases h; rfl

/-- The integer `n` as a bounded one, when it lies between the ends. -/
def ofInt? (n : Int) : Option (IntIn lo hi) :=
  if h : lo ≤ n ∧ n ≤ hi then some ⟨n, h.1, h.2⟩ else none

theorem ofInt?_eq_some_iff {n : Int} {a : IntIn lo hi} : ofInt? n = some a ↔ a.val = n := by
  constructor
  · intro h
    unfold ofInt? at h
    split at h
    · exact (congrArg IntIn.val (Option.some.inj h)).symm
    · cases h
  · rintro rfl
    exact dif_pos ⟨a.lo_le, a.le_hi⟩

/-- The next integer up, unless `a` is the upper end. -/
def next? (a : IntIn lo hi) : Option (IntIn lo hi) := ofInt? (a.val + 1)

/-- The next integer down, unless `a` is the lower end. -/
def prev? (a : IntIn lo hi) : Option (IntIn lo hi) := ofInt? (a.val - 1)

/-- The same integer between wider ends. -/
def widen {lo' hi' : Int} (a : IntIn lo hi) (hlo : lo' ≤ lo) (hhi : hi ≤ hi') : IntIn lo' hi' :=
  ⟨a.val, Int.le_trans hlo a.lo_le, Int.le_trans a.le_hi hhi⟩

/-- Decimal notation, with a minus sign below zero. -/
def text (a : IntIn lo hi) : String := toString a.val

instance : Ord (IntIn lo hi) := ⟨compareOn IntIn.val⟩

instance : Std.TransOrd (IntIn lo hi) := inferInstanceAs (Std.TransCmp (compareOn IntIn.val))

theorem compare_eq_lt {a b : IntIn lo hi} : compare a b = .lt ↔ a.val < b.val :=
  Int.compare_eq_lt

theorem compare_eq_eq {a b : IntIn lo hi} : compare a b = .eq ↔ a.val = b.val :=
  Int.compare_eq_eq

instance : Std.LawfulEqOrd (IntIn lo hi) where
  compare_self := compare_eq_eq.2 rfl
  eq_of_compare h := IntIn.ext (compare_eq_eq.1 h)

instance : Hashable (IntIn lo hi) := ⟨fun a => hash a.val⟩

end IntIn

/-- Integers of 64 bits, signed. -/
abbrev Bigint : Type := IntIn (-9223372036854775808) 9223372036854775807

/-- Integers of 128 bits, signed. -/
abbrev Hugeint : Type :=
  IntIn (-170141183460469231731687303715884105728) 170141183460469231731687303715884105727

/-- Words of 64 bits, unsigned. -/
abbrev Word : Type := IntIn 0 18446744073709551615

namespace Bigint

/-- The least 64-bit integer. -/
def least : Bigint := ⟨-9223372036854775808, by decide, by decide⟩

/-- The greatest 64-bit integer. -/
def greatest : Bigint := ⟨9223372036854775807, by decide, by decide⟩

/-- The same integer with 128 bits to spare. -/
def toHugeint (a : Bigint) : Hugeint := a.widen (by decide) (by decide)

end Bigint

namespace Hugeint

/-- The least 128-bit integer. -/
def least : Hugeint := ⟨-170141183460469231731687303715884105728, by decide, by decide⟩

/-- The greatest 128-bit integer. -/
def greatest : Hugeint := ⟨170141183460469231731687303715884105727, by decide, by decide⟩

/-- The same integer in 64 bits, when it fits. -/
def toBigint? (a : Hugeint) : Option Bigint := IntIn.ofInt? a.val

end Hugeint

end ColumnFilter
