/-
What a compilation checks, and what is left to the families of types.

* `Compile.check_eq_ok`: a list passes the checks when its bounds are accepted, no interval is
  empty and, if domains are validated, each interval precedes the next.
* `Compile.valuesFilter_eq_ok`: a set of values compiles to a constant filter, or to what the
  family of the column makes of a list that passed the checks.
* `Compile.test_of_compile` and `Compile.exists_compile` reduce statements on compiled filters to
  statements on `Compile.listFilter`: what its filters answer, and that it makes one.
* `Compile.traverse_payload` says when a bound converts.
-/
import ColumnFilter.Compile.Basic
import ColumnFilter.Filter.Probe
import ColumnFilter.Proofs.Interval.Reading
import ColumnFilter.Proofs.Order.Linear

namespace ColumnFilter

/-- A type that can be declared: a decimal has a digit, and no more than any decimal. -/
def SqlType.IsProper : SqlType → Prop
  | .decimal precision _ => 1 ≤ precision ∧ precision ≤ maxPrecision
  | _ => True

theorem SqlType.typeClass_of_long {precision scale : Nat} (hlong : maxShortPrecision < precision) :
    (decimal precision scale).typeClass = .longDecimal :=
  if_neg hlong.not_ge

namespace Compile

/-! ### Outcomes -/

section Outcomes

variable {ε α β : Type} {x : Except ε α} {b : β} {e : ε}

theorem bind_eq_ok {g : α → Except ε β} :
    x >>= g = .ok b ↔ ∃ a, x = .ok a ∧ g a = .ok b := by
  cases x with
  | error e => simp [bind, Except.bind]
  | ok a => simp [bind, Except.bind]

theorem bind_eq_error {g : α → Except ε β} :
    x >>= g = .error e ↔ x = .error e ∨ ∃ a, x = .ok a ∧ g a = .error e := by
  cases x with
  | error e => simp [bind, Except.bind]
  | ok a => simp [bind, Except.bind]

/-- What fails as a whole, but not after its first part, fails in its first part. -/
theorem eq_error_of_bind {g : α → Except ε β} (h : x >>= g = .error e)
    (hok : ∀ a, x = .ok a → ∃ b, x >>= g = .ok b) : x = .error e := by
  rcases bind_eq_error.mp h with hx | ⟨a, hx, -⟩
  · exact hx
  · obtain ⟨b, hb⟩ := hok a hx
    rw [hb] at h
    cases h

theorem map_eq_ok {g : α → β} : x.map g = .ok b ↔ ∃ a, x = .ok a ∧ g a = b := by
  cases x <;> simp [Except.map]

theorem map_eq_error {g : α → β} : x.map g = .error e ↔ x = .error e := by
  cases x <;> simp [Except.map]

theorem mapError_eq_ok {ε' : Type} {g : ε → ε'} {x : Except ε β} :
    x.mapError g = .ok b ↔ x = .ok b := by
  cases x <;> simp [Except.mapError]

theorem mapError_eq_error {ε' : Type} {g : ε → ε'} {e' : ε'} :
    x.mapError g = .error e' ↔ ∃ e, x = .error e ∧ e' = g e := by
  cases x <;> simp [Except.mapError, eq_comm]

theorem pure_eq_ok {b' : β} : (pure b : Except ε β) = .ok b' ↔ b = b' := by
  simp [pure, Except.pure]

theorem mapM_eq_ok {f : α → Except ε β} {l : List α} {l' : List β} :
    l.mapM f = .ok l' ↔ List.Forall₂ (fun a b => f a = .ok b) l l' := by
  induction l generalizing l' with
  | nil =>
    rw [List.mapM_nil, pure_eq_ok, List.forall₂_nil_left_iff]
    exact eq_comm
  | cons a l ih =>
    simp only [List.mapM_cons, bind_eq_ok, pure_eq_ok, ih, List.forall₂_cons_left_iff]
    constructor
    · rintro ⟨b, hb, l', hl', rfl⟩
      exact ⟨b, l', hb, hl', rfl⟩
    · rintro ⟨b, l', hb, hl', rfl⟩
      exact ⟨b, hb, l', hl', rfl⟩

theorem exists_mapM {f : α → Except ε β} {l : List α} (h : ∀ a ∈ l, ∃ b, f a = .ok b) :
    ∃ l', l.mapM f = .ok l' := by
  induction l with
  | nil => exact ⟨[], rfl⟩
  | cons a l ih =>
    obtain ⟨⟨b, hb⟩, hl⟩ := List.forall_mem_cons.mp h
    obtain ⟨l', hl'⟩ := ih hl
    exact ⟨b :: l', mapM_eq_ok.mpr (.cons hb (mapM_eq_ok.mp hl'))⟩

theorem mapM_eq_ok_iff_map {f : α → Except ε β} {l : List α} {l' : List β} :
    l.mapM f = .ok l' ↔ l.map f = l'.map .ok := by
  rw [mapM_eq_ok, ← List.forall₂_eq_eq_eq, List.forall₂_map_left_iff, List.forall₂_map_right_iff]

/-- A list fails where its first element that fails does. -/
theorem mapM_eq_error_iff {f : α → Except ε β} {l : List α} :
    l.mapM f = .error e ↔ ∃ before a after, l = before ++ a :: after ∧
      (∀ x ∈ before, ∃ b, f x = .ok b) ∧ f a = .error e := by
  -- the first failure is at the head, or in the tail when the head succeeds
  induction l with
  | nil => simp [pure, Except.pure]
  | cons x l ih =>
    rw [List.mapM_cons]
    constructor
    · intro h
      rcases bind_eq_error.mp h with hx | ⟨b, hx, h⟩
      · exact ⟨[], x, l, rfl, by simp, hx⟩
      · rcases bind_eq_error.mp h with hl | ⟨l', -, h⟩
        · obtain ⟨before, a, after, rfl, hbefore, ha⟩ := ih.mp hl
          exact ⟨x :: before, a, after, rfl, List.forall_mem_cons.mpr ⟨⟨b, hx⟩, hbefore⟩, ha⟩
        · cases h
    · rintro ⟨before, a, after, hl, hbefore, ha⟩
      cases before with
      | nil =>
        obtain ⟨rfl, rfl⟩ := List.cons.inj hl
        exact bind_eq_error.mpr (.inl ha)
      | cons y before =>
        obtain ⟨rfl, rfl⟩ := List.cons.inj hl
        obtain ⟨⟨b, hx⟩, hbefore⟩ := List.forall_mem_cons.mp hbefore
        have hrest := ih.mpr ⟨before, a, after, rfl, hbefore, ha⟩
        exact bind_eq_error.mpr (.inr ⟨b, hx, bind_eq_error.mpr (.inl hrest)⟩)

theorem mapM_eq_error {f : α → Except ε β} {l : List α} (h : l.mapM f = .error e) :
    ∃ a ∈ l, f a = .error e := by
  obtain ⟨before, a, after, rfl, -, ha⟩ := mapM_eq_error_iff.mp h
  exact ⟨a, List.mem_append_right before List.mem_cons_self, ha⟩

theorem mapM_mapError {ε' : Type} {f : α → Except ε β} {g : ε → ε'} {l : List α} :
    (l.mapM f).mapError g = l.mapM fun a => (f a).mapError g := by
  induction l with
  | nil => rfl
  | cons a l ih =>
    rw [List.mapM_cons, List.mapM_cons, ← ih]
    cases f a with
    | error e => rfl
    | ok b => cases l.mapM f <;> rfl

end Outcomes

/-! ### Checks -/

/-- The bounds of every interval are accepted and none is empty. -/
def Admissible (type : SqlType) (list : List (Interval Scalar)) : Prop :=
  ∀ i ∈ list, (∀ a ∈ i.endValues, type.accepts a = true) ∧ i.isEmpty = false

theorem admissible_cons {type : SqlType} {i : Interval Scalar} {rest : List (Interval Scalar)} :
    Admissible type (i :: rest) ↔
      ((∀ a ∈ i.endValues, type.accepts a = true) ∧ i.isEmpty = false) ∧ Admissible type rest :=
  List.forall_mem_cons

theorem unaccepted?_eq_none {type : SqlType} {i : Interval Scalar} :
    unaccepted? type i = none ↔ ∀ a ∈ i.endValues, type.accepts a = true := by
  simp [unaccepted?]

/-- One step of the check. -/
theorem checkFrom_cons_eq_ok {options : Options} {type : SqlType} {index : Nat}
    {previous : Option (Interval Scalar)} {i : Interval Scalar} {rest : List (Interval Scalar)} :
    checkFrom options type index previous (i :: rest) = .ok () ↔
      ((∀ a ∈ i.endValues, type.accepts a = true) ∧ i.isEmpty = false) ∧
        (options.validateDomains = true → ∀ p ∈ previous, p.precedes i = true) ∧
        checkFrom options type (index + 1) (some i) rest = .ok () := by
  rw [← unaccepted?_eq_none]
  -- the order is looked at where there is a previous interval
  cases previous with
  | none =>
    rw [checkFrom]
    cases unaccepted? type i <;> cases i.isEmpty <;> simp
  | some p =>
    rw [checkFrom]
    cases unaccepted? type i <;> cases i.isEmpty <;> cases options.validateDomains <;>
      cases hp : p.precedes i <;> simp [hp]

theorem checkFrom_eq_ok {options : Options} {type : SqlType} {index : Nat}
    {previous : Option (Interval Scalar)} {list : List (Interval Scalar)} :
    checkFrom options type index previous list = .ok () ↔
      Admissible type list ∧ (options.validateDomains = true →
        (previous.toList ++ list).IsChain fun i j => i.precedes j = true) := by
  -- the interval before the list takes part in the order alone
  induction list generalizing index previous with
  | nil => cases previous <;> simp [checkFrom, Admissible]
  | cons i rest ih =>
    have hchain : (previous.toList ++ i :: rest).IsChain (fun i j => i.precedes j = true) ↔
        (∀ p ∈ previous, p.precedes i = true) ∧
          (i :: rest).IsChain fun i j => i.precedes j = true := by
      cases previous <;> simp
    rw [checkFrom_cons_eq_ok, ih, hchain, admissible_cons, imp_and]
    exact ⟨fun ⟨hi, hp, hrest, h⟩ => ⟨⟨hi, hrest⟩, hp, h⟩,
      fun ⟨⟨hi, hrest⟩, hp, h⟩ => ⟨hi, hp, hrest, h⟩⟩

theorem check_eq_ok {options : Options} {type : SqlType} {list : List (Interval Scalar)} :
    check options type list = .ok () ↔
      Admissible type list ∧ (options.validateDomains = true →
        list.IsChain fun i j => i.precedes j = true) :=
  checkFrom_eq_ok

theorem invalidPrecision?_eq_none {type : SqlType} :
    invalidPrecision? type = none ↔ type.IsProper := by
  cases type <;> simp [invalidPrecision?, SqlType.IsProper]
  omega

/-! ### Sets of values -/

/-- What a set of values compiles to. -/
theorem valuesFilter_eq_ok {options : Options} {type : SqlType} {values : IntervalSet Scalar}
    {n : Bool} {f : Filter} (h : valuesFilter options type values n = .ok f) :
    values.toList = [] ∧ f = .nothing n ∨ values.isAll = true ∧ f = .everything n ∨
      ∃ list, values = .intervals list ∧ values.isAll = false ∧ Admissible type list ∧
        listFilter options type list n = .ok f := by
  unfold valuesFilter at h
  split at h
  · cases h
  · split at h
    · cases h
      exact .inl ⟨rfl, rfl⟩
    · cases h
      exact .inr (.inl ⟨rfl, rfl⟩)
    · cases h
      exact .inl ⟨rfl, rfl⟩
    · -- what is everything without being `.all` is checked first
      rename_i list _
      obtain ⟨_, hcheck, h⟩ := bind_eq_ok.mp h
      split at h
      · rename_i hall
        exact .inr (.inl ⟨hall, (pure_eq_ok.mp h).symm⟩)
      · rename_i hall
        have hadm := (check_eq_ok.mp hcheck).1
        exact .inr (.inr ⟨list, rfl, Bool.not_eq_true _ ▸ hall, hadm, h⟩)

/-- A list that is not empty is checked before anything is made of it. -/
theorem valuesFilter_intervals_cons {options : Options} {type : SqlType} (htype : type.IsProper)
    (i : Interval Scalar) (rest : List (Interval Scalar)) (n : Bool) :
    valuesFilter options type (.intervals (i :: rest)) n =
      (check options type (i :: rest) >>= fun _ =>
        if (IntervalSet.intervals (i :: rest)).isAll then pure (.everything n)
        else listFilter options type (i :: rest) n) := by
  simp only [valuesFilter, invalidPrecision?_eq_none.mpr htype]

section Lists

variable {options : Options} {type : SqlType} {list : List (Interval Scalar)} {n : Bool}

theorem check_of_valuesFilter {f : Filter}
    (h : valuesFilter options type (.intervals list) n = .ok f) :
    check options type list = .ok () := by
  unfold valuesFilter at h
  split at h
  · cases h
  · cases list with
    | nil => rfl
    | cons i rest =>
      obtain ⟨_, hcheck, -⟩ := bind_eq_ok.mp h
      exact hcheck

theorem valuesFilter_eq_error_of_check {e : CompileError} (htype : type.IsProper)
    (h : check options type list = .error e) :
    valuesFilter options type (.intervals list) n = .error e := by
  cases list with
  | nil => cases h
  | cons i rest =>
    rw [valuesFilter_intervals_cons htype]
    exact bind_eq_error.mpr (.inl h)

/-- A list that passes the checks compiles, when its family makes something of it. -/
theorem exists_valuesFilter_of_check (htype : type.IsProper)
    (hcheck : check options type list = .ok ())
    (hlist : list ≠ [] → ∃ f, listFilter options type list n = .ok f) :
    ∃ f, valuesFilter options type (.intervals list) n = .ok f := by
  cases list with
  | nil => exact ⟨.nothing n, by simp [valuesFilter, invalidPrecision?_eq_none.mpr htype]⟩
  | cons i rest =>
    obtain ⟨f, hf⟩ := hlist (List.cons_ne_nil i rest)
    simp only [valuesFilter_intervals_cons htype, bind_eq_ok]
    by_cases hall : (IntervalSet.intervals (i :: rest)).isAll = true
    · exact ⟨.everything n, (), hcheck, if_pos hall⟩
    · exact ⟨f, (), hcheck, (if_neg hall).trans hf⟩

end Lists

/-- A set in normal form whose bounds are accepted compiles, when its intervals do. -/
theorem exists_valuesFilter {options : Options} {type : SqlType} {values : IntervalSet Scalar}
    {n : Bool} (htype : type.IsProper) (hn : values.IsNormal)
    (haccepts : ∀ a ∈ values.endValues, type.accepts a = true)
    (hlist : ∀ list, values = .intervals list → Separated list →
      ∃ f, listFilter options type list n = .ok f) :
    ∃ f, valuesFilter options type values n = .ok f := by
  match values, hn with
  | .none, _ => exact ⟨.nothing n, by simp [valuesFilter, invalidPrecision?_eq_none.mpr htype]⟩
  | .all, _ => exact ⟨.everything n, by simp [valuesFilter, invalidPrecision?_eq_none.mpr htype]⟩
  | .intervals list, hn =>
    have hadm : Admissible type list := fun j hj =>
      ⟨IntervalSet.forall_mem_endValues.mp haccepts j hj, hn.2.2.nonempty j hj⟩
    have hcheck : check options type list = .ok () :=
      check_eq_ok.mpr ⟨hadm, fun _ => hn.2.2.chain⟩
    exact exists_valuesFilter_of_check htype hcheck fun _ => hlist list rfl hn.2.2

theorem listFilter_integer {options : Options} {type : SqlType} {list : List (Interval Scalar)}
    {n : Bool} (htype : type.typeClass = .integer) :
    listFilter options type list n = integerFilter options type list n := by
  rw [listFilter, htype]

theorem listFilter_bytes {options : Options} {type : SqlType} {list : List (Interval Scalar)}
    {n : Bool} (htype : type.typeClass = .bytes) :
    listFilter options type list n = bytesFilter options type list n := by
  rw [listFilter, htype]

/-! ### Filters -/

/-- A compiled filter answers `b`, if the constant filters do where they are used and the filters of
the column's family do. -/
theorem test_of_compile {options : Options} {type : SqlType} {d : Domain} {f : Filter}
    {probe : Probe} {b : Bool} (h : d.compile options type = .ok f)
    (hnothing : d.values.toList = [] → b = false) (heverything : d.values.isAll = true → b = true)
    (hlist : ∀ list, d.values = .intervals list → d.values.isAll = false →
      Admissible type list → listFilter options type list d.nullAllowed = .ok f →
      f.test? probe = some b) :
    f.test probe = .ok b := by
  have htest : f.test? probe = some b := by
    rcases valuesFilter_eq_ok h with ⟨hnil, rfl⟩ | ⟨hall, rfl⟩ | ⟨list, hd, hall, hadm, hf⟩
    · rw [hnothing hnil, Filter.test?_nothing]
    · rw [heverything hall, Filter.test?_everything]
    · exact hlist list hd hall hadm hf
  rw [Filter.test, htest]

/-- A compiled filter looks for an interval with a property, if the filters of the column's family
do and the interval without ends has it. -/
theorem test_of_compile_any {options : Options} {type : SqlType} {d : Domain} {f : Filter}
    {probe : Probe} {p : Interval Scalar → Bool} (h : d.compile options type = .ok f)
    (hall : p .all = true)
    (hlist : ∀ list, d.values = .intervals list → Admissible type list →
      listFilter options type list d.nullAllowed = .ok f → f.test? probe = some (list.any p)) :
    f.test probe = .ok (d.values.toList.any p) := by
  refine test_of_compile h (fun hnil => ?_) (fun heverything => ?_) fun list hd _ hadm hf => ?_
  · rw [hnil]
    rfl
  · rw [IntervalSet.toList_of_isAll heverything, List.any_cons, hall, Bool.true_or]
  · rw [hlist list hd hadm hf, hd]
    rfl

theorem exists_compile {options : Options} {type : SqlType} {d : Domain} (htype : type.IsProper)
    (hn : d.values.IsNormal) (haccepts : ∀ a ∈ d.values.endValues, type.accepts a = true)
    (hlist : ∀ list, d.values = .intervals list → Separated list →
      ∃ f, listFilter options type list d.nullAllowed = .ok f) :
    ∃ f, d.compile options type = .ok f :=
  exists_valuesFilter htype hn haccepts hlist

/-- A list in normal form whose bounds are accepted compiles to what its family makes of it. -/
theorem exists_compile_intervals {options : Options} {type : SqlType}
    {list : List (Interval Scalar)} (htype : type.IsProper)
    (hn : (IntervalSet.intervals list).IsNormal)
    (haccepts : ∀ i ∈ list, ∀ a ∈ i.endValues, type.accepts a = true) {nullAllowed : Bool}
    (hlist : ∃ f, listFilter options type list nullAllowed = .ok f) :
    ∃ f, (Domain.mk (.intervals list) nullAllowed).compile options type = .ok f ∧
      listFilter options type list nullAllowed = .ok f := by
  obtain ⟨f, hf⟩ : ∃ f, (Domain.mk (.intervals list) nullAllowed).compile options type = .ok f := by
    refine exists_compile htype hn (IntervalSet.forall_mem_endValues.mpr haccepts) ?_
    rintro _ ⟨rfl⟩ -
    exact hlist
  -- a list in normal form is neither empty nor everything
  rcases valuesFilter_eq_ok hf with ⟨hnil, -⟩ | ⟨hall, -⟩ | ⟨_, ⟨rfl⟩, -, -, hlist⟩
  · exact absurd hnil hn.1
  · exact absurd (IntervalSet.toList_of_isAll hall) hn.2.1
  · exact ⟨f, hf, hlist⟩

/-! ### Parts and bounds -/

theorem fromParts_eq_ok {α : Type} {x : Except ShapeError α} {a : α} :
    fromParts x = .ok a ↔ x = .ok a :=
  mapError_eq_ok

theorem payload_eq_ok {α : Type} {type : SqlType} {extract : Scalar → Option α} {a : Scalar}
    {c : α} : payload type extract a = .ok c ↔ extract a = some c := by
  rw [payload]
  cases extract a <;> simp

/-- A bound converts when its payload is of the family. -/
theorem traverse_payload {α : Type} {type : SqlType} {extract : Scalar → Option α}
    {e : Endpoint Scalar} {e' : Endpoint α} :
    e.traverse (payload type extract) = .ok e' ↔ e.Reads extract e' := by
  constructor
  · intro h
    cases e with
    | unbounded =>
      cases h
      exact .unbounded
    | inclusive a =>
      obtain ⟨c, hc, rfl⟩ := map_eq_ok.mp h
      exact .inclusive (payload_eq_ok.mp hc)
    | exclusive a =>
      obtain ⟨c, hc, rfl⟩ := map_eq_ok.mp h
      exact .exclusive (payload_eq_ok.mp hc)
  · intro h
    cases h with
    | unbounded => rfl
    | inclusive h => exact map_eq_ok.mpr ⟨_, payload_eq_ok.mpr h, rfl⟩
    | exclusive h => exact map_eq_ok.mpr ⟨_, payload_eq_ok.mpr h, rfl⟩

/-- A bound that does not convert is reported as one of the wrong type. -/
theorem payload_eq_error {α : Type} {type : SqlType} {extract : Scalar → Option α} {a : Scalar}
    {err : CompileError} (h : payload type extract a = .error err) :
    err = .typeMismatch type a := by
  rw [payload] at h
  split at h <;> cases h
  rfl

theorem traverse_payload_eq_error {α : Type} {type : SqlType} {extract : Scalar → Option α}
    {e : Endpoint Scalar} {err : CompileError}
    (h : e.traverse (payload type extract) = .error err) :
    ∃ a ∈ e.value?, err = .typeMismatch type a := by
  cases e with
  | unbounded => cases h
  | inclusive a => exact ⟨a, rfl, payload_eq_error (map_eq_error.mp h)⟩
  | exclusive a => exact ⟨a, rfl, payload_eq_error (map_eq_error.mp h)⟩

end Compile

end ColumnFilter
