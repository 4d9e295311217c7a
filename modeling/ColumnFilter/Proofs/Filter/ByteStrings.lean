/-
Sets of byte strings hold their members.

* `BytesSet.contains_iff`: a string is found when it is a member. The lengths that are looked at
  first rule no member out.
* `BytesSet.make_eq_ok`: the set of a list holds the strings of the list.
-/
import ColumnFilter.Filter.BytesSet

namespace ColumnFilter

/-- A least value of a list is not above any value of it, nor above the one it starts from. -/
theorem foldl_min_le {β : Type} (f : β → Nat) (list : List β) (n : Nat) :
    list.foldl (fun m b => min m (f b)) n ≤ n ∧
      ∀ b ∈ list, list.foldl (fun m b => min m (f b)) n ≤ f b := by
  induction list generalizing n with
  | nil => simp
  | cons b list ih =>
    obtain ⟨hn, hlist⟩ := ih (min n (f b))
    refine ⟨Nat.le_trans hn (Nat.min_le_left _ _), List.forall_mem_cons.mpr ⟨?_, hlist⟩⟩
    exact Nat.le_trans hn (Nat.min_le_right _ _)

theorem le_foldl_max {β : Type} (f : β → Nat) (list : List β) (n : Nat) :
    n ≤ list.foldl (fun m b => max m (f b)) n ∧
      ∀ b ∈ list, f b ≤ list.foldl (fun m b => max m (f b)) n := by
  induction list generalizing n with
  | nil => simp
  | cons b list ih =>
    obtain ⟨hn, hlist⟩ := ih (max n (f b))
    refine ⟨Nat.le_trans (Nat.le_max_left _ _) hn, List.forall_mem_cons.mpr ⟨?_, hlist⟩⟩
    exact Nat.le_trans (Nat.le_max_right _ _) hn

theorem BytesIndex.contains_build {first v : Bytes} {others : List Bytes} :
    (build first others).contains v = true ↔ v ∈ first :: others := by
  simp only [contains, Bool.and_eq_true, decide_eq_true_iff]
  simp only [build, Std.HashSet.contains_ofList, List.contains_iff_mem]
  -- a string of the table has a length between the least and the greatest
  refine ⟨fun h => h.2, fun h => ⟨?_, h⟩⟩
  obtain ⟨hshortest, hshortest'⟩ := foldl_min_le Bytes.size others first.size
  obtain ⟨hlongest, hlongest'⟩ := le_foldl_max Bytes.size others first.size
  rcases List.mem_cons.mp h with rfl | h
  · exact ⟨hshortest, hlongest⟩
  · exact ⟨hshortest' v h, hlongest' v h⟩

namespace BytesSet

variable {s : BytesSet} {v : Bytes} {values : List Bytes} {n : Bool}

theorem contains_iff : s.contains v = true ↔ v ∈ s.members := by
  rw [contains, s.index_eq, BytesIndex.contains_build]
  exact Iff.rfl

theorem make_eq_ok (h : make values n = .ok s) : s.contains v = true ↔ v ∈ values := by
  rw [make] at h
  split at h
  · rename_i first others hvalues
    cases h
    rw [contains_iff, members, ← hvalues, mem_ascending]
  · cases h

theorem nullAllowed_of_make (h : make values n = .ok s) : s.nullAllowed = n := by
  rw [make] at h
  split at h <;> cases h
  rfl

theorem exists_make (h : values ≠ []) : ∃ s, make values n = .ok s := by
  rw [make]
  split
  · exact ⟨_, rfl⟩
  · rename_i hnil
    exact absurd hnil (ascending_ne_nil h)

end BytesSet

end ColumnFilter
