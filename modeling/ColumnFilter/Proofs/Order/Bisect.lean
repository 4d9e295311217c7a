/-
Binary search finds the boundary of a predicate.

When the elements that satisfy `p` come before those that do not, `Bisect.count p xs` is the
position between them (`lt_count_iff`). The last element that satisfies `p` can then stand for
the whole array: if nothing satisfies `q` without `p`, and `q` is handed on to every later element
that satisfies `p`, one look at that element decides whether any element satisfies `q`
(`any_last?`). An element after which nothing satisfies `p` is the one that is looked at
(`last?_eq_some_of_pairwise`).
-/
import ColumnFilter.Order.Bisect

namespace ColumnFilter.Bisect

variable {α : Type} {p q : α → Bool} {xs : Array α}

/-- The elements that satisfy `p` come before those that do not. -/
def Partitioned (p : α → Bool) (xs : Array α) : Prop :=
  xs.toList.Pairwise fun x y => p y = true → p x = true

theorem Partitioned.getElem (hp : Partitioned p xs) {i j : Nat} (hij : i < j) (hj : j < xs.size)
    (h : p xs[j] = true) : p xs[i] = true :=
  List.pairwise_iff_getElem.mp hp i j (Nat.lt_trans hij hj) hj hij h

theorem lt_search_iff (hp : Partitioned p xs) {low high : Nat} (hle : low ≤ high)
    (h : high ≤ xs.size) (hlow : ∀ i, (hi : i < low) → p xs[i] = true)
    (hhigh : ∀ i, high ≤ i → (hi : i < xs.size) → p xs[i] = false) (i : Nat) (hi : i < xs.size) :
    i < search p xs low high h ↔ p xs[i] = true := by
  -- along the search: what is below `low` satisfies `p`, and nothing from `high` on does
  fun_induction search p xs low high h with
  | case1 low high h hlt middle hmiddle hpm ih =>
    refine ih (by omega) (fun j hj => ?_) hhigh
    rcases Nat.lt_or_ge j middle with hjm | hjm
    · exact hp.getElem hjm hmiddle hpm
    · obtain rfl : j = middle := by omega
      exact hpm
  | case2 low high h hlt middle hmiddle hpm ih =>
    refine ih (by omega) hlow (fun j hj hjs => ?_)
    rw [← Bool.not_eq_true]
    intro hpj
    rcases Nat.lt_or_ge middle j with hjm | hjm
    · exact hpm (hp.getElem hjm hjs hpj)
    · obtain rfl : j = middle := by omega
      exact hpm hpj
  | case3 low high h hlt =>
    constructor
    · exact hlow i
    · intro hpi
      refine Nat.lt_of_not_le fun hli => ?_
      rw [hhigh i (by omega) hi] at hpi
      cases hpi

theorem search_le {low high : Nat} (hle : low ≤ high) (h : high ≤ xs.size) :
    search p xs low high h ≤ xs.size := by
  fun_induction search p xs low high h with
  | case1 low high h hlt middle hmiddle hpm ih => exact ih (by omega)
  | case2 low high h hlt middle hmiddle hpm ih => exact ih (by omega)
  | case3 low high h hlt => exact Nat.le_trans hle h

theorem count_le : count p xs ≤ xs.size :=
  search_le (Nat.zero_le _) (Nat.le_refl _)

/-- The elements before the boundary are those that satisfy the predicate. -/
theorem lt_count_iff (hp : Partitioned p xs) {i : Nat} (hi : i < xs.size) :
    i < count p xs ↔ p xs[i] = true :=
  lt_search_iff hp (Nat.zero_le _) (Nat.le_refl _) (fun _ h => absurd h (Nat.not_lt_zero _))
    (fun _ h h' => absurd h (Nat.not_le_of_lt h')) i hi

theorem last?_eq_some {x : α} (h : last? p xs = some x) : x ∈ xs := by
  rw [last?] at h
  split at h
  · cases h
  · exact Array.mem_of_getElem? h

/-- One look at the last element that satisfies `p` decides whether any element satisfies `q`. -/
theorem any_last? (hp : Partitioned p xs) (hqp : ∀ x ∈ xs, q x = true → p x = true)
    (hq : xs.toList.Pairwise fun x y => p y = true → q x = true → q y = true) :
    (last? p xs).any q = xs.toList.any q := by
  rw [Bool.eq_iff_iff, Option.any_eq_true, List.any_eq_true]
  constructor
  · rintro ⟨x, hx, hqx⟩
    exact ⟨x, Array.mem_toList_iff.mpr (last?_eq_some hx), hqx⟩
  · rintro ⟨x, hx, hqx⟩
    obtain ⟨i, hi, rfl⟩ := Array.getElem_of_mem (Array.mem_toList_iff.mp hx)
    have hlt := (lt_count_iff hp hi).mpr (hqp _ (Array.getElem_mem hi) hqx)
    obtain ⟨k, hk⟩ : ∃ k, count p xs = k + 1 := ⟨count p xs - 1, by omega⟩
    have hsize : count p xs ≤ xs.size := count_le
    have hks : k < xs.size := by omega
    have hpk : p xs[k] = true := (lt_count_iff hp hks).mp (by omega)
    -- so `k` is the last place before the boundary, at `i` or after it
    have hlast : last? p xs = some xs[k] := by
      rw [last?, hk]
      exact Array.getElem?_eq_getElem hks
    refine ⟨xs[k], hlast, ?_⟩
    rcases Nat.lt_or_ge i k with hik | hik
    · exact List.pairwise_iff_getElem.mp hq i k hi hks hik hpk hqx
    · obtain rfl : i = k := by omega
      exact hqx

/-- An element that satisfies `p`, and after which none does, is the last that does. -/
theorem last?_eq_some_of_pairwise (hp : Partitioned p xs) {x : α} (hx : x ∈ xs)
    (hpx : p x = true) (hlast : xs.toList.Pairwise fun y z => y = x → p z = false) :
    last? p xs = some x := by
  classical
  -- ask the search whether it ends at `x`
  have hany : (last? p xs).any (fun y => decide (y = x)) = true := by
    rw [any_last? hp]
    · exact List.any_eq_true.mpr ⟨x, Array.mem_toList_iff.mpr hx, decide_eq_true rfl⟩
    · rintro y - hy
      exact of_decide_eq_true hy ▸ hpx
    · refine hlast.imp fun {y z} hyz hpz hy => ?_
      rw [hyz (of_decide_eq_true hy)] at hpz
      cases hpz
  obtain ⟨y, hy, heq⟩ := (Option.any_eq_true _ _).mp hany
  rw [hy, of_decide_eq_true heq]

end ColumnFilter.Bisect
