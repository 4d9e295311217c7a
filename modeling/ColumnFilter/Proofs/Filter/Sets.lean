/-
Finite sets as what they hold.

* `IntegerSet.exists_make_exact`: the set of a list of integers holds the listed integers and no
  other, and keeps them in ascending order without repetition. It indexes distances from its least
  member exactly when the greatest is less than `2 ^ 32` away, and these distances, which are
  differences of 64-bit words cut to 32 bits, tell its values apart.
* `Filter.set_filters_ext`: filters over finite sets, of integers or of byte strings, are equal
  exactly when they pass the same values and treat NULL alike, in whatever order and however often
  the members are listed.

The members of a set are a strictly ascending list, which is determined by what it holds; equality
of sets is therefore a matter of membership. For byte strings the index has lengths beside the
table of the members, and two indexes agree in all three parts when they hold the same strings
(`BytesIndex.agrees_build_iff`).
-/
import ColumnFilter.Filter.Probe
import ColumnFilter.Proofs.Filter.ByteStrings
import ColumnFilter.Proofs.Filter.Integers
import Mathlib.Data.List.Sort
import Mathlib.Order.Bounds.Basic
import Mathlib.Order.MinMax

namespace ColumnFilter

theorem sortedLT_of_pairwise {α : Type} [LinearOrder α] {l : List α}
    (h : l.Pairwise fun a b => compare a b = .lt) : l.SortedLT :=
  (h.imp compare_lt_iff_lt.mp).sortedLT

/-! ### Integers -/

namespace IntegerIndex

variable {least v : Bigint}

/-- A distance is the difference of two 64-bit words, cut to 32 bits. -/
theorem offset_eq_word (h : least ≤ v) :
    offset least v = (Int64.ofInt v.val - Int64.ofInt least.val).toUInt64.toUInt32 := by
  have hle := IntIn.le_iff.mp h
  have hlow := least.lo_le
  have hhigh := v.le_hi
  have hword : (Int64.ofInt (v.val - least.val)).toUInt64.toNat = (v.val - least.val).toNat := by
    -- the difference is not negative, and less than `2 ^ 64`
    show (BitVec.ofInt 64 (v.val - least.val)).toNat = _
    rw [BitVec.toNat_ofInt]
    omega
  rw [← Int64.ofInt_sub]
  refine UInt32.toNat_inj.mp ?_
  rw [offset, UInt64.toNat_toUInt32, hword, UInt32.toNat_ofNat']

theorem isOffsets_build {greatest : Bigint} {members : List Bigint} :
    (build least greatest members).isOffsets = true ↔ greatest.val - least.val ≤ 4294967295 := by
  rw [build]
  split
  · simp only [isOffsets, true_iff]
    omega
  · simp only [isOffsets, Bool.false_eq_true, false_iff]
    omega

end IntegerIndex

namespace IntegerSet

variable {s t : IntegerSet}

theorem sortedLT_members (s : IntegerSet) : s.members.toList.SortedLT :=
  sortedLT_of_pairwise s.ordered

theorem isOffsets_index : s.index.isOffsets = true ↔ s.greatest.val - s.least.val ≤ 4294967295 := by
  rw [s.index_eq]
  exact IntegerIndex.isOffsets_build

/-- Up to the greatest member, distances tell values apart. -/
theorem injOn_offset (h : s.index.isOffsets = true) :
    Set.InjOn (IntegerIndex.offset s.least) (Set.Icc s.least s.greatest) := by
  have hspan := isOffsets_index.mp h
  rintro v ⟨hlv, hvg⟩ w ⟨hlw, hwg⟩ hvw
  rw [IntIn.le_iff] at hlv hvg hlw hwg
  exact (IntegerIndex.offset_inj hlv (by omega) hlw (by omega)).mp hvw

/-- Sets that hold the same integers and treat NULL alike are equal. -/
theorem ext_contains :
    s = t ↔ s.nullAllowed = t.nullAllowed ∧ ∀ v, s.contains v = t.contains v := by
  constructor
  · rintro rfl
    exact ⟨rfl, fun _ => rfl⟩
  · rintro ⟨hnull, h⟩
    refine ext_members (Array.toList_inj.mp ?_) hnull
    -- strictly ascending lists with the same elements
    refine s.sortedLT_members.eq_of_mem_iff t.sortedLT_members fun v => ?_
    rw [Array.mem_toList_iff, Array.mem_toList_iff, ← contains_iff, ← contains_iff, h v]

/-- The members are the listed integers. -/
theorem mem_members_of_make {values : List Bigint} {n : Bool} (h : make values n = .ok s)
    {v : Bigint} : v ∈ s.members ↔ v ∈ values := by
  rw [← contains_iff, make_eq_ok h]

theorem head?_members (s : IntegerSet) : s.members.toList.head? = some s.least := by
  rw [List.head?_eq_getElem?, Array.getElem?_toList]
  exact Array.getElem?_eq_getElem s.size_pos

theorem getLast?_members (s : IntegerSet) : s.members.toList.getLast? = some s.greatest := by
  have hsize := s.size_pos
  rw [List.getLast?_eq_getElem?, Array.getElem?_toList, Array.length_toList]
  exact Array.getElem?_eq_getElem (by omega)

/-- A set of integers holds what it is made of, by either index. -/
theorem exists_make_exact (values : List Bigint) (nullAllowed : Bool) (h : values ≠ []) :
    ∃ s, make values nullAllowed = .ok s ∧
      (∀ v, (Filter.integerSet s).test (.integer v) = .ok (decide (v ∈ values))) ∧
      s.members.toList.SortedLT ∧ (∀ v, v ∈ s.members ↔ v ∈ values) ∧
      s.members.toList.head? = some s.least ∧ s.members.toList.getLast? = some s.greatest ∧
      (s.index.isOffsets = true ↔ s.greatest.val - s.least.val ≤ 4294967295) ∧
      (s.index.isOffsets = true →
        Set.InjOn (IntegerIndex.offset s.least) (Set.Icc s.least s.greatest)) ∧
      ∀ v, s.least ≤ v → IntegerIndex.offset s.least v =
        (Int64.ofInt v.val - Int64.ofInt s.least.val).toUInt64.toUInt32 := by
  obtain ⟨s, hs⟩ := exists_make h
  have htest (v : Bigint) : s.contains v = decide (v ∈ values) := by
    rw [Bool.eq_iff_iff, make_eq_ok hs, decide_eq_true_iff]
  exact ⟨s, hs, fun v => congrArg Except.ok (htest v), s.sortedLT_members,
    fun _ => mem_members_of_make hs, s.head?_members, s.getLast?_members, isOffsets_index,
    injOn_offset, fun _ => IntegerIndex.offset_eq_word⟩

/-- The ends are `2 ^ 32 - 1` apart, which is as far as distances reach. -/
theorem exists_make_exact_widest :
    ∃ (values : List Bigint) (s : IntegerSet),
      values = [⟨4294967294, by decide, by decide⟩, ⟨-1, by decide, by decide⟩,
        ⟨-1, by decide, by decide⟩] ∧
      make values true = .ok s ∧ s.index.isOffsets = true ∧
      (Filter.integerSet s).test (.integer ⟨-1, by decide, by decide⟩) = .ok true ∧
      (Filter.integerSet s).test (.integer ⟨0, by decide, by decide⟩) = .ok false := by
  obtain ⟨s, hs, htest, -, hmem, hleast, hgreatest, hoffsets, -⟩ := exists_make_exact
    [⟨4294967294, by decide, by decide⟩, ⟨-1, by decide, by decide⟩, ⟨-1, by decide, by decide⟩]
    true (List.cons_ne_nil _ _)
  refine ⟨_, s, rfl, hs, hoffsets.mpr ?_, htest _, htest _⟩
  -- the ends are among the listed values, so they are less than 2 ^ 32 apart
  have hl := (hmem _).mp (Array.mem_toList_iff.mp (List.mem_of_head? hleast))
  have hg := (hmem _).mp (Array.mem_toList_iff.mp (List.mem_of_getLast? hgreatest))
  simp only [List.mem_cons, List.not_mem_nil, or_false, IntIn.ext_iff] at hl hg
  omega

end IntegerSet

/-! ### Byte strings -/

/-- What a fold that chooses between values arrives at is one of them. -/
theorem foldl_choice {β : Type} {op : Nat → Nat → Nat} (hop : ∀ m n, op m n = m ∨ op m n = n)
    (f : β → Nat) (list : List β) (n : Nat) :
    list.foldl (fun m b => op m (f b)) n = n ∨
      ∃ b ∈ list, f b = list.foldl (fun m b => op m (f b)) n := by
  induction list generalizing n with
  | nil => exact .inl rfl
  | cons b list ih =>
    rw [List.foldl_cons]
    rcases ih (op n (f b)) with h | ⟨c, hc, h⟩
    · rw [h]
      exact (hop n (f b)).imp id fun hb => ⟨b, List.mem_cons_self, hb.symm⟩
    · exact .inr ⟨c, List.mem_cons_of_mem _ hc, h⟩

namespace BytesIndex

variable {x y : Bytes} {xs ys : List Bytes}

/-- The sizes of the strings of a list. -/
def sizes (list : List Bytes) : Set Nat := {n | ∃ b ∈ list, b.size = n}

theorem foldl_mem_sizes {op : Nat → Nat → Nat} (hop : ∀ m n, op m n = m ∨ op m n = n) :
    xs.foldl (fun m b => op m b.size) x.size ∈ sizes (x :: xs) := by
  rcases foldl_choice hop Bytes.size xs x.size with h | ⟨b, hb, h⟩
  · exact ⟨x, List.mem_cons_self, h.symm⟩
  · exact ⟨b, List.mem_cons_of_mem _ hb, h⟩

theorem forall_mem_sizes {P : Nat → Prop} (hx : P x.size) (hxs : ∀ b ∈ xs, P b.size) :
    ∀ n ∈ sizes (x :: xs), P n := by
  rintro n ⟨b, hb, rfl⟩
  rcases List.mem_cons.mp hb with rfl | hb
  · exact hx
  · exact hxs b hb

theorem isLeast_shortest : IsLeast (sizes (x :: xs)) (build x xs).shortest := by
  obtain ⟨hfirst, hothers⟩ := foldl_min_le Bytes.size xs x.size
  exact ⟨foldl_mem_sizes min_choice, forall_mem_sizes hfirst hothers⟩

theorem isGreatest_longest : IsGreatest (sizes (x :: xs)) (build x xs).longest := by
  obtain ⟨hfirst, hothers⟩ := le_foldl_max Bytes.size xs x.size
  exact ⟨foldl_mem_sizes max_choice, forall_mem_sizes hfirst hothers⟩

/-- Agreement of two indexes: in both lengths, and in the strings of the table. -/
structure Agrees (i j : BytesIndex) : Prop where
  shortest : i.shortest = j.shortest
  longest : i.longest = j.longest
  table : i.table.Equiv j.table

/-- The lengths add nothing: indexes agree when they are built of the same strings, whatever the
order and the number of times that these are listed. -/
theorem agrees_build_iff :
    (build x xs).Agrees (build y ys) ↔ ∀ v, v ∈ x :: xs ↔ v ∈ y :: ys := by
  have hmem (z : Bytes) (zs : List Bytes) (v : Bytes) :
      v ∈ (build z zs).table ↔ v ∈ z :: zs := by
    rw [build, Std.HashSet.mem_ofList, List.contains_iff_mem]
  constructor
  · intro h v
    rw [← hmem, ← hmem, h.table.mem_iff]
  · intro h
    -- lengths and table depend on the members alone
    have hsizes : sizes (x :: xs) = sizes (y :: ys) := by
      ext n
      exact exists_congr fun b => and_congr_left' (h b)
    refine ⟨?_, ?_, ?_⟩
    · exact (hsizes ▸ isLeast_shortest).unique isLeast_shortest
    · exact (hsizes ▸ isGreatest_longest).unique isGreatest_longest
    · exact .of_forall_mem_iff fun v => by rw [hmem, hmem, h v]

end BytesIndex

namespace BytesSet

variable {s t : BytesSet}

theorem sortedLT_members (s : BytesSet) : s.members.SortedLT :=
  sortedLT_of_pairwise s.ordered

/-- Sets that hold the same byte strings and treat NULL alike are equal. -/
theorem ext_contains :
    s = t ↔ s.nullAllowed = t.nullAllowed ∧ ∀ v, s.contains v = t.contains v := by
  constructor
  · rintro rfl
    exact ⟨rfl, fun _ => rfl⟩
  · rintro ⟨hnull, h⟩
    refine ext_members (s.sortedLT_members.eq_of_mem_iff t.sortedLT_members fun v => ?_) hnull
    rw [← contains_iff, ← contains_iff, h v]

theorem mem_members_of_make {values : List Bytes} {n : Bool} (h : make values n = .ok s)
    {v : Bytes} : v ∈ s.members ↔ v ∈ values := by
  rw [← contains_iff, make_eq_ok h]

/-- The index of a set agrees with one that takes the listed strings as they come. -/
theorem agrees_index_of_make {x : Bytes} {xs : List Bytes} {n : Bool}
    (h : make (x :: xs) n = .ok s) : s.index.Agrees (.build x xs) := by
  rw [s.index_eq, BytesIndex.agrees_build_iff]
  exact fun _ => mem_members_of_make h

end BytesSet

/-! ### Filters -/

/-- Filters over finite sets are equal exactly when they pass the same values and treat NULL alike.
A set of byte strings passes the listed strings, keeps them in ascending order, and can be told
from another by the index over the strings as they are listed. -/
theorem Filter.set_filters_ext (m n : Bool) :
    (∀ (x : Bigint) (xs : List Bigint) (y : Bigint) (ys : List Bigint), ∃ s t,
      IntegerSet.make (x :: xs) m = .ok s ∧ IntegerSet.make (y :: ys) n = .ok t ∧
      ((Filter.integerSet s == Filter.integerSet t) = true ↔
        m = n ∧ ∀ v, (Filter.integerSet s).test (.integer v) =
          (Filter.integerSet t).test (.integer v))) ∧
    (∀ (x : Bytes) (xs : List Bytes) (y : Bytes) (ys : List Bytes), ∃ s t,
      BytesSet.make (x :: xs) m = .ok s ∧ BytesSet.make (y :: ys) n = .ok t ∧
      (∀ v, (Filter.bytesSet s).test (.bytes v) = .ok (decide (v ∈ x :: xs))) ∧
      s.members.SortedLT ∧ (∀ v, v ∈ s.members ↔ v ∈ x :: xs) ∧
      ((Filter.bytesSet s == Filter.bytesSet t) = true ↔
        m = n ∧ ∀ v, (Filter.bytesSet s).test (.bytes v) = (Filter.bytesSet t).test (.bytes v)) ∧
      s.index.Agrees (.build x xs) ∧
      (m = n ∧ (BytesIndex.build x xs).Agrees (.build y ys) ↔ s = t)) := by
  -- both sets are determined by what they hold and by their flags
  constructor
  · intro x xs y ys
    obtain ⟨s, hs⟩ := IntegerSet.exists_make (List.cons_ne_nil x xs)
    obtain ⟨t, ht⟩ := IntegerSet.exists_make (List.cons_ne_nil y ys)
    refine ⟨s, t, hs, ht, ?_⟩
    rw [beq_iff_eq, integerSet.injEq, IntegerSet.ext_contains, IntegerSet.nullAllowed_of_make hs,
      IntegerSet.nullAllowed_of_make ht]
    simp [test, test?, constant?]
  · intro x xs y ys
    obtain ⟨s, hs⟩ := BytesSet.exists_make (List.cons_ne_nil x xs)
    obtain ⟨t, ht⟩ := BytesSet.exists_make (List.cons_ne_nil y ys)
    refine ⟨s, t, hs, ht, fun v => congrArg Except.ok ?_, s.sortedLT_members,
      fun v => BytesSet.mem_members_of_make hs, ?_, BytesSet.agrees_index_of_make hs, ?_⟩
    · rw [Bool.eq_iff_iff, BytesSet.make_eq_ok hs, decide_eq_true_iff]
    · rw [beq_iff_eq, bytesSet.injEq, BytesSet.ext_contains, BytesSet.nullAllowed_of_make hs,
        BytesSet.nullAllowed_of_make ht]
      simp [test, test?, constant?]
    · rw [BytesIndex.agrees_build_iff, BytesSet.ext_contains, BytesSet.nullAllowed_of_make hs,
        BytesSet.nullAllowed_of_make ht]
      refine and_congr_right' (forall_congr' fun v => ?_)
      rw [Bool.eq_iff_iff, BytesSet.make_eq_ok hs, BytesSet.make_eq_ok ht]

end ColumnFilter
