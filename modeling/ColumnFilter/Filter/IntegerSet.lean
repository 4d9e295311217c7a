/-
Finite sets of integers.

The members are kept in ascending order, beside an index that answers membership. Where the
members span fewer than `2 ^ 32` integers the index holds their distances from the least one as
32-bit words; otherwise it holds the members. The index is a function of the members
(`IntegerSet.index_eq`), so sets are equal when their members and their null flags are.
-/
import ColumnFilter.Filter.ShapeError
import ColumnFilter.Order.Distinct
import Std.Data.HashSet

namespace ColumnFilter

/-! ### Indexes -/

/-- A membership index of a set of integers. -/
inductive IntegerIndex where
  /-- Distances from the least member. -/
  | offsets (table : Std.HashSet UInt32)
  /-- The members themselves. -/
  | values (table : Std.HashSet Bigint)

namespace IntegerIndex

/-- Distance of `v` from `least`, in a 32-bit word. -/
def offset (least v : Bigint) : UInt32 := UInt32.ofNat (v.val - least.val).toNat

/-- The index of members that lie between `least` and `greatest`. -/
def build (least greatest : Bigint) (members : List Bigint) : IntegerIndex :=
  if greatest.val - least.val < 4294967296 then
    .offsets (.ofList (members.map (offset least)))
  else .values (.ofList members)

/-- Whether the index has an integer not below `least`. -/
def contains (least : Bigint) (v : Bigint) : IntegerIndex → Bool
  | .offsets table => table.contains (offset least v)
  | .values table => table.contains v

/-- Whether the index holds distances. -/
def isOffsets : IntegerIndex → Bool
  | .offsets _ => true
  | .values _ => false

end IntegerIndex

/-! ### Sets -/

/-- A finite set of integers, not empty, and NULL or not. -/
structure IntegerSet where
  members : Array Bigint
  nullAllowed : Bool
  size_pos : 0 < members.size
  ordered : members.toList.Pairwise fun a b => compare a b = .lt
  index : IntegerIndex
  index_eq : index =
    IntegerIndex.build members[0] (members.back size_pos) members.toList

namespace IntegerSet

theorem ext_members {s t : IntegerSet} (h : s.members = t.members)
    (hnull : s.nullAllowed = t.nullAllowed) : s = t := by
  obtain ⟨m, n, hm, ho, i, hi⟩ := s
  obtain ⟨m', n', hm', ho', i', hi'⟩ := t
  cases h
  cases hnull
  cases hi
  cases hi'
  rfl

instance : DecidableEq IntegerSet := fun s t =>
  if h : s.members = t.members ∧ s.nullAllowed = t.nullAllowed then isTrue (ext_members h.1 h.2)
  else isFalse fun e => h ⟨congrArg members e, congrArg nullAllowed e⟩

/-- The least member. -/
def least (s : IntegerSet) : Bigint :=
  have := s.size_pos
  s.members[0]

/-- The greatest member. -/
def greatest (s : IntegerSet) : Bigint := s.members.back s.size_pos

/-- The set of the listed integers. -/
def make (values : List Bigint) (nullAllowed : Bool) : Except ShapeError IntegerSet :=
  if h : 0 < (ascending values).length then
    .ok ⟨(ascending values).toArray, nullAllowed, h, ascending_pairwise values, _, rfl⟩
  else .error .noIntegers

/-- Whether an integer is a member. -/
def contains (s : IntegerSet) (v : Bigint) : Bool :=
  s.least.val ≤ v.val && v.val ≤ s.greatest.val && s.index.contains s.least v

/-- The number of members and the ends. -/
def text (s : IntegerSet) : String :=
  "bigint in (" ++ toString s.members.size ++ " values, " ++ s.least.text ++ "..="
    ++ s.greatest.text ++ ")"

end IntegerSet

end ColumnFilter
