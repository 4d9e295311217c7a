/-
Distinct elements in ascending order.

`ascending xs` sorts a list and keeps one element of each run of equal ones. It has the elements
of `xs` (`mem_ascending`) in strictly ascending order (`ascending_pairwise`).
-/

namespace ColumnFilter

variable {α : Type}

section Repeats

variable [BEq α] {a b : α} {rest : List α}

/-- What is kept of the elements so far stays in front. -/
theorem eraseReps_loop_eq_append (a : α) (rest kept : List α) :
    List.eraseRepsBy.loop (· == ·) a rest kept =
      kept.reverse ++ List.eraseRepsBy.loop (· == ·) a rest [] := by
  induction rest generalizing a kept with
  | nil => simp [List.eraseRepsBy.loop]
  | cons b rest ih =>
    cases hab : a == b
    · simp only [List.eraseRepsBy.loop, hab]
      rw [ih b (a :: kept), ih b [a]]
      simp
    · simp only [List.eraseRepsBy.loop, hab]
      exact ih a kept

theorem eraseReps_cons_of_eq (h : (a == b) = true) :
    (a :: b :: rest).eraseReps = (a :: rest).eraseReps := by
  simp only [List.eraseReps, List.eraseRepsBy, List.eraseRepsBy.loop, h]

theorem eraseReps_cons_of_ne (h : (a == b) = false) :
    (a :: b :: rest).eraseReps = a :: (b :: rest).eraseReps := by
  simp only [List.eraseReps, List.eraseRepsBy, List.eraseRepsBy.loop, h]
  exact eraseReps_loop_eq_append b rest [a]

end Repeats

theorem mem_eraseReps [BEq α] [LawfulBEq α] {x : α} {xs : List α} :
    x ∈ xs.eraseReps ↔ x ∈ xs := by
  -- along the list; its first element stays, whether the second one goes or not
  match xs with
  | [] => exact Iff.rfl
  | [_] => exact Iff.rfl
  | a :: b :: rest =>
    cases hab : a == b with
    | false => rw [eraseReps_cons_of_ne hab, List.mem_cons, mem_eraseReps, ← List.mem_cons]
    | true =>
      obtain rfl := eq_of_beq hab
      rw [eraseReps_cons_of_eq hab, mem_eraseReps]
      simp
termination_by xs.length

variable [Ord α] [DecidableEq α]

/-- The distinct elements of a list, in ascending order. -/
def ascending (xs : List α) : List α :=
  (xs.mergeSort fun a b => (compare a b).isLE).eraseReps

theorem mem_ascending {x : α} {xs : List α} : x ∈ ascending xs ↔ x ∈ xs := by
  rw [ascending, mem_eraseReps, List.mem_mergeSort]

theorem ascending_ne_nil {xs : List α} (h : xs ≠ []) : ascending xs ≠ [] := by
  cases xs with
  | nil => exact absurd rfl h
  | cons a _ => exact List.ne_nil_of_mem (mem_ascending.2 List.mem_cons_self)

variable [Std.TransOrd α] [Std.LawfulEqOrd α]

/-- In a list that does not descend, an element that differs from the next one is below all that
follow. -/
theorem eraseReps_pairwise {xs : List α}
    (h : xs.Pairwise fun a b => (compare a b).isLE = true) :
    xs.eraseReps.Pairwise fun a b => compare a b = .lt := by
  -- neighbours are in order and, once repetitions are gone, not equal
  match xs, h with
  | [], _ => exact .nil
  | [_], _ => exact List.pairwise_singleton _ _
  | a :: b :: rest, h =>
    obtain ⟨ha, hb⟩ := List.pairwise_cons.1 h
    obtain ⟨hrest, hpair⟩ := List.pairwise_cons.1 hb
    cases hab : a == b with
    | true =>
      rw [eraseReps_cons_of_eq hab]
      exact eraseReps_pairwise
        (List.pairwise_cons.2 ⟨fun x hx => ha x (List.mem_cons_of_mem b hx), hpair⟩)
    | false =>
      rw [eraseReps_cons_of_ne hab]
      refine List.pairwise_cons.2 ⟨fun x hx => ?_, eraseReps_pairwise hb⟩
      have hlt : compare a b = .lt := by
        cases hcompare : compare a b with
        | lt => rfl
        | eq => exact absurd (Std.LawfulEqOrd.eq_of_compare hcompare) (ne_of_beq_false hab)
        | gt =>
          have hle := ha b List.mem_cons_self
          rw [hcompare] at hle
          cases hle
      cases List.mem_cons.1 (mem_eraseReps.1 hx) with
      | inl hx => exact hx ▸ hlt
      | inr hx => exact Std.TransCmp.lt_of_lt_of_isLE hlt (hrest x hx)
termination_by xs.length

theorem ascending_pairwise (xs : List α) :
    (ascending xs).Pairwise fun a b => compare a b = .lt := by
  refine eraseReps_pairwise (List.pairwise_mergeSort ?_ ?_ xs)
  · exact fun a b c => Std.TransCmp.isLE_trans
  · intro a b
    have h : compare b a = (compare a b).swap := Std.OrientedCmp.eq_swap
    rw [h]
    cases compare a b <;> rfl

end ColumnFilter
