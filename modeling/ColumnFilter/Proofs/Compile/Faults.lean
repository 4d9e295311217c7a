/-
The first fault of a list of intervals.

An interval is at fault when the column does not accept one of its bounds, when it is empty, or
when its predecessor does not precede it (`Compile.IsFaulty`). Of several faults of one interval
the bounds are reported first, the lower one before the upper one, and the order last
(`Compile.Fault`).

* `Compile.checkFrom_cons_of_fault`, `Compile.checkFrom_cons_of_not_isFaulty`: one step of the
  check stops at an interval at fault, and passes over any other.
* `Compile.check_eq_error_iff`: the check fails with the fault of the first interval at fault.
-/
import ColumnFilter.Proofs.Compile.Checks

namespace ColumnFilter.Compile

/-! ### Faults -/

/-- The interval after `previous` is at fault. Its order matters to a strict check only. -/
def IsFaulty (strict : Bool) (type : SqlType) (previous : Option (Interval Scalar))
    (i : Interval Scalar) : Prop :=
  (∃ a ∈ i.endValues, type.accepts a = false) ∨ i.isEmpty = true ∨
    strict = true ∧ ∃ p ∈ previous, p.precedes i = false

/-- What is reported of the interval at position `index`, after `previous`. -/
inductive Fault (strict : Bool) (type : SqlType) (index : Nat)
    (previous : Option (Interval Scalar)) (i : Interval Scalar) : CompileError → Prop
  | lower {a : Scalar} (ha : a ∈ i.lower.value?) (h : type.accepts a = false) :
    Fault strict type index previous i (.typeMismatch type a)
  | upper {a : Scalar} (hlower : ∀ b ∈ i.lower.value?, type.accepts b = true)
    (ha : a ∈ i.upper.value?) (h : type.accepts a = false) :
    Fault strict type index previous i (.typeMismatch type a)
  | empty (hends : ∀ a ∈ i.endValues, type.accepts a = true) (h : i.isEmpty = true) :
    Fault strict type index previous i (.emptyInterval index i)
  | unordered {p : Interval Scalar} (hends : ∀ a ∈ i.endValues, type.accepts a = true)
    (hroom : i.isEmpty = false) (hstrict : strict = true) (hp : p ∈ previous)
    (h : p.precedes i = false) :
    Fault strict type index previous i (.unordered index p i)

section Steps

variable {options : Options} {strict : Bool} {type : SqlType} {index : Nat}
  {previous : Option (Interval Scalar)} {i : Interval Scalar} {list rest : List (Interval Scalar)}
  {e : CompileError}

theorem Fault.isFaulty (h : Fault strict type index previous i e) :
    IsFaulty strict type previous i := by
  cases h with
  | lower ha h => exact .inl ⟨_, Interval.mem_endValues.mpr (.inl ha), h⟩
  | upper _ ha h => exact .inl ⟨_, Interval.mem_endValues.mpr (.inr ha), h⟩
  | empty _ h => exact .inr (.inl h)
  | unordered _ _ hstrict hp h => exact .inr (.inr ⟨hstrict, _, hp, h⟩)

theorem unaccepted?_eq_some {a : Scalar} :
    unaccepted? type i = some a ↔
      a ∈ i.lower.value? ∧ type.accepts a = false ∨
        (∀ b ∈ i.lower.value?, type.accepts b = true) ∧ a ∈ i.upper.value? ∧
          type.accepts a = false := by
  have hfind (o : Option Scalar) :
      o.toList.find? (!type.accepts ·) = o.filter (!type.accepts ·) := by
    cases o <;> simp [Option.filter]
  rw [unaccepted?, Interval.endValues, List.find?_append, Option.or_eq_some_iff, hfind, hfind,
    Option.filter_eq_some_iff, Option.filter_eq_some_iff, Option.filter_eq_none_iff]
  simp

theorem exists_fault (index : Nat) (h : IsFaulty strict type previous i) :
    ∃ e, Fault strict type index previous i e := by
  cases hbound : unaccepted? type i with
  | some a =>
    rcases unaccepted?_eq_some.mp hbound with ⟨ha, hno⟩ | ⟨hlower, ha, hno⟩
    · exact ⟨_, .lower ha hno⟩
    · exact ⟨_, .upper hlower ha hno⟩
  | none =>
    have hends := unaccepted?_eq_none.mp hbound
    by_cases hempty : i.isEmpty = true
    · exact ⟨_, .empty hends hempty⟩
    · -- nothing but the order is left to be at fault
      rcases h with ⟨a, ha, hno⟩ | hempty' | ⟨hstrict, p, hp, hno⟩
      · rw [hends a ha] at hno
        cases hno
      · exact absurd hempty' hempty
      · exact ⟨_, .unordered hends (Bool.not_eq_true _ ▸ hempty) hstrict hp hno⟩

/-! ### Steps of the check -/

/-- The check stops at an interval at fault. -/
theorem checkFrom_cons_of_fault (h : Fault options.validateDomains type index previous i e) :
    checkFrom options type index previous (i :: rest) = .error e := by
  -- the checks come in the order of the faults, so those before this one pass
  cases h with
  | lower ha h =>
    have hbound := unaccepted?_eq_some.mpr (.inl ⟨ha, h⟩)
    cases previous <;> rw [checkFrom, hbound]
  | upper hlower ha h =>
    have hbound := unaccepted?_eq_some.mpr (.inr ⟨hlower, ha, h⟩)
    cases previous <;> rw [checkFrom, hbound]
  | empty hends h =>
    cases previous <;> rw [checkFrom, unaccepted?_eq_none.mpr hends] <;> simp [h]
  | unordered hends hroom hstrict hp h =>
    obtain rfl := Option.mem_def.mp hp
    rw [checkFrom, unaccepted?_eq_none.mpr hends]
    simp [hroom, hstrict, h]

/-- The check passes over any other interval. -/
theorem checkFrom_cons_of_not_isFaulty
    (h : ¬ IsFaulty options.validateDomains type previous i) :
    checkFrom options type index previous (i :: rest)
      = checkFrom options type (index + 1) (some i) rest := by
  simp only [IsFaulty, not_or, not_exists, not_and, Bool.not_eq_false, Bool.not_eq_true] at h
  obtain ⟨hends, hroom, horder⟩ := h
  cases previous with
  | none =>
    rw [checkFrom, unaccepted?_eq_none.mpr hends]
    simp [hroom]
  | some p =>
    have hp : options.validateDomains = true → p.precedes i = true := fun hv => horder hv p rfl
    rw [checkFrom, unaccepted?_eq_none.mpr hends]
    cases hv : options.validateDomains <;> simp [hroom, hp, hv]

end Steps

/-! ### The first fault -/

/-- The interval before a position, `previous` standing before the first one. -/
def before? {α : Type} (previous : Option α) (list : List α) : Nat → Option α
  | 0 => previous
  | n + 1 => list[n]?

/-- The interval at a position of a list is at fault. -/
def IsFaultyAt (strict : Bool) (type : SqlType) (list : List (Interval Scalar)) (n : Nat) : Prop :=
  ∃ i, list[n]? = some i ∧ IsFaulty strict type (before? none list n) i

/-- What is reported of the interval at a position of a list. -/
def FaultAt (strict : Bool) (type : SqlType) (list : List (Interval Scalar)) (n : Nat)
    (e : CompileError) : Prop :=
  ∃ i, list[n]? = some i ∧ Fault strict type n (before? none list n) i e

section Runs

variable {options : Options} {type : SqlType} {index : Nat} {previous : Option (Interval Scalar)}
  {list : List (Interval Scalar)} {e : CompileError}

theorem before?_cons {α : Type} (previous : Option α) (a : α) (list : List α) (n : Nat) :
    before? previous (a :: list) (n + 1) = before? (some a) list n := by
  cases n <;> rfl

theorem checkFrom_eq_error_iff :
    checkFrom options type index previous list = .error e ↔
      ∃ n i, list[n]? = some i ∧
        Fault options.validateDomains type (index + n) (before? previous list n) i e ∧
        ∀ m < n, ∀ j, list[m]? = some j →
          ¬ IsFaulty options.validateDomains type (before? previous list m) j := by
  -- along the list; a position of the rest is the next position of the whole
  induction list generalizing index previous with
  | nil => simp [checkFrom]
  | cons i rest ih =>
    have hshift (n : Nat) : index + (n + 1) = index + 1 + n := by omega
    by_cases hi : IsFaulty options.validateDomains type previous i
    · constructor
      · intro h
        obtain ⟨e', he'⟩ := exists_fault index hi
        rw [checkFrom_cons_of_fault he'] at h
        obtain rfl := Except.error.inj h
        exact ⟨0, i, rfl, he', fun m hm => absurd hm (Nat.not_lt_zero m)⟩
      · rintro ⟨n, j, hj, hfault, hbefore⟩
        cases n with
        | zero =>
          obtain rfl := Option.some.inj hj
          exact checkFrom_cons_of_fault hfault
        | succ n => exact absurd hi (hbefore 0 (Nat.succ_pos n) i rfl)
    · rw [checkFrom_cons_of_not_isFaulty hi, ih]
      constructor
      · rintro ⟨n, j, hj, hfault, hbefore⟩
        refine ⟨n + 1, j, hj, ?_, fun m hm k hk => ?_⟩
        · rw [before?_cons, hshift]
          exact hfault
        · cases m with
          | zero =>
            obtain rfl := Option.some.inj hk
            exact hi
          | succ m =>
            rw [before?_cons]
            exact hbefore m (Nat.lt_of_succ_lt_succ hm) k hk
      · rintro ⟨n, j, hj, hfault, hbefore⟩
        cases n with
        | zero =>
          obtain rfl := Option.some.inj hj
          exact absurd hfault.isFaulty hi
        | succ n =>
          rw [before?_cons, hshift] at hfault
          refine ⟨n, j, hj, hfault, fun m hm k hk => ?_⟩
          have hm' := hbefore (m + 1) (Nat.succ_lt_succ hm) k hk
          rwa [before?_cons] at hm'

/-- The check fails with what is reported of the first interval at fault. -/
theorem check_eq_error_iff :
    check options type list = .error e ↔
      ∃ n, FaultAt options.validateDomains type list n e ∧
        ∀ m < n, ¬ IsFaultyAt options.validateDomains type list m := by
  rw [check, checkFrom_eq_error_iff]
  simp only [Nat.zero_add]
  constructor
  · rintro ⟨n, i, hi, hfault, hbefore⟩
    exact ⟨n, ⟨i, hi, hfault⟩, fun m hm ⟨j, hj, hfaulty⟩ => hbefore m hm j hj hfaulty⟩
  · rintro ⟨n, ⟨i, hi, hfault⟩, hbefore⟩
    exact ⟨n, i, hi, hfault, fun m hm j hj hfaulty => hbefore m hm ⟨j, hj, hfaulty⟩⟩

end Runs

end ColumnFilter.Compile
