/-
Finite sets of byte strings.

The members are kept in ascending order, beside an index: the least and the greatest length of a
member, which rule most other strings out, and a table of the members. The index is a function of
the members (`BytesSet.index_eq`), so sets are equal when their members and their null flags are.
-/
import ColumnFilter.Filter.ShapeError
import ColumnFilter.Order.Distinct
import Std.Data.HashSet

namespace ColumnFilter

/-! ### Indexes -/

/-- A membership index of a set of byte strings. -/
structure BytesIndex where
  shortest : Nat
  longest : Nat
  table : Std.HashSet Bytes

namespace BytesIndex

/-- The index of a set that holds `first` and the `others`. -/
def build (first : Bytes) (others : List Bytes) : BytesIndex where
  shortest := others.foldl (fun n b => min n b.size) first.size
  longest := others.foldl (fun n b => max n b.size) first.size
  table := .ofList (first :: others)

/-- Whether the index has a byte string. -/
def contains (i : BytesIndex) (v : Bytes) : Bool :=
  i.shortest ≤ v.size && v.size ≤ i.longest && i.table.contains v

end BytesIndex

/-! ### Sets -/

/-- A finite set of byte strings, not empty: its least member and the others. And NULL or not. -/
structure BytesSet where
  first : Bytes
  others : List Bytes
  nullAllowed : Bool
  ordered : (first :: others).Pairwise fun a b => compare a b = .lt
  index : BytesIndex
  index_eq : index = BytesIndex.build first others

namespace BytesSet

/-- The members in ascending order. -/
def members (s : BytesSet) : List Bytes := s.first :: s.others

theorem ext_members {s t : BytesSet} (h : s.members = t.members)
    (hnull : s.nullAllowed = t.nullAllowed) : s = t := by
  obtain ⟨f, r, n, _, _, hi⟩ := s
  obtain ⟨f', r', n', _, _, hi'⟩ := t
  obtain ⟨rfl, rfl⟩ := List.cons.inj (show f :: r = f' :: r' from h)
  cases hnull
  cases hi
  cases hi'
  rfl

instance : DecidableEq BytesSet := fun s t =>
  if h : s.members = t.members ∧ s.nullAllowed = t.nullAllowed then isTrue (ext_members h.1 h.2)
  else isFalse fun e => h ⟨congrArg members e, congrArg nullAllowed e⟩

/-- The set of the listed byte strings. -/
def make (values : List Bytes) (nullAllowed : Bool) : Except ShapeError BytesSet :=
  match h : ascending values with
  | first :: others => .ok ⟨first, others, nullAllowed, h ▸ ascending_pairwise values, _, rfl⟩
  | [] => .error .noByteStrings

/-- Number of members. -/
def size (s : BytesSet) : Nat := s.members.length

/-- Whether a byte string is a member. -/
def contains (s : BytesSet) (v : Bytes) : Bool := s.index.contains v

/-- The number of members. -/
def text (s : BytesSet) : String := "bytes in (" ++ toString s.size ++ " values)"

end BytesSet

end ColumnFilter
