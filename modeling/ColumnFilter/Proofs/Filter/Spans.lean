/-
Spans and unions of spans hold what their intervals hold.

A span is an interval again (`Span.toInterval`): a limit without a bound is a missing end,
whatever value it keeps. Of a union of such spans only the last whose lower limit admits a value
is tested. The spans are in order by one comparison and searched by another, and still

* `SpanList.isSearchable`: the spans whose lower limit admits a value come first;
* `SpanList.contains_eq_any`: the test finds a span that holds the value, if there is one.

`SpanFamily` names what a family of spans has of its own: how its spans and unions are wrapped
and tested. Within one family, `SpanFamily.make_eq_ok` says which lists of spans make a union.
-/
import ColumnFilter.Filter.Probe
import ColumnFilter.Proofs.Interval.Graded
import ColumnFilter.Proofs.Order.Bisect
import ColumnFilter.Proofs.Order.Linear

namespace ColumnFilter

/-! ### Spans as intervals -/

section Spans

variable {α : Type}

/-- The end of an interval that a limit is. -/
def Limit.toEndpoint (l : Limit α) : Endpoint α :=
  if l.unbounded then .unbounded
  else if l.exclusive then .exclusive l.value else .inclusive l.value

theorem Limit.toEndpoint_ofEndpoint {missing : Limit α} (h : missing.unbounded = true)
    (e : Endpoint α) : (ofEndpoint missing e).toEndpoint = e := by
  cases e <;> simp [ofEndpoint, toEndpoint, h]

/-- The interval that a span is. -/
def Span.toInterval (s : Span α) : Interval α := ⟨s.lower.toEndpoint, s.upper.toEndpoint⟩

/-- The span between the ends of an interval. -/
def Interval.toSpan [SpanValue α] (i : Interval α) (nullAllowed : Bool) : Span α :=
  .ofEndpoints i.lower i.upper nullAllowed

theorem Span.isBefore_eq_true [Ord α] {s t : Span α} :
    s.isBefore t = true ↔ s.toInterval.upper.touches t.toInterval.lower = false := by
  obtain ⟨_, ⟨u, ub, ue⟩, _⟩ := s
  obtain ⟨⟨l, lb, le⟩, _, _⟩ := t
  cases ub <;> cases ue <;> cases lb <;> cases le <;> cases h : compare u l <;>
    simp [isBefore, toInterval, Limit.toEndpoint, Endpoint.touches, h]

theorem Span.areAscending_eq_true [Ord α] {spans : List (Span α)} :
    areAscending spans = true ↔
      spans.IsChain fun s t => s.toInterval.upper.touches t.toInterval.lower = false := by
  fun_induction areAscending spans with
  | case1 s t rest ih =>
    rw [Bool.and_eq_true, isBefore_eq_true, ih, List.isChain_cons_cons]
  | case2 spans h =>
    rcases spans with - | ⟨s, - | ⟨t, rest⟩⟩
    · simp
    · simp
    · exact absurd rfl (h s t rest)

/-- Flags do not matter to the order of spans. -/
theorem Span.areAscending_map_withNullAllowed [Ord α] {spans : List (Span α)} {n : Bool} :
    areAscending (spans.map (·.withNullAllowed n)) = areAscending spans := by
  rw [Bool.eq_iff_iff, areAscending_eq_true, areAscending_eq_true, List.isChain_map]
  exact Iff.rfl

/-- A span is a point when it is the interval of one. -/
theorem Span.isPoint_eq [LinearOrder α] [DecidableEq α] (s : Span α) :
    s.isPoint = s.toInterval.isPoint := by
  obtain ⟨⟨a, al, ae⟩, ⟨b, bu, be⟩, _⟩ := s
  rw [Bool.eq_iff_iff, Interval.isPoint_iff]
  cases al <;> cases ae <;> cases bu <;> cases be <;>
    simp [isPoint, toInterval, Limit.toEndpoint, Interval.point]
  exact eq_comm

variable [SpanValue α]

theorem Limit.admitsAbove_eq (l : Limit α) (v : α) :
    l.admitsAbove v = l.toEndpoint.admitsAboveBy (.plain SpanValue.lt SpanValue.le) v := by
  obtain ⟨a, unbounded, exclusive⟩ := l
  cases unbounded <;> cases exclusive <;>
    simp [admitsAbove, toEndpoint, Endpoint.admitsAboveBy, Reading.plain]

theorem Limit.admitsBelow_eq (l : Limit α) (v : α) :
    l.admitsBelow v = l.toEndpoint.admitsBelowBy (.plain SpanValue.lt SpanValue.le) v := by
  obtain ⟨a, unbounded, exclusive⟩ := l
  cases unbounded <;> cases exclusive <;>
    simp [admitsBelow, toEndpoint, Endpoint.admitsBelowBy, Reading.plain]

theorem Span.contains_eq (s : Span α) (v : α) :
    s.contains v = s.toInterval.admitsBy (.plain SpanValue.lt SpanValue.le) v := by
  rw [contains, Limit.admitsAbove_eq, Limit.admitsBelow_eq]
  rfl

end Spans

/-! ### Unions of spans -/

namespace SpanList

/-- What a union is made of: the given spans with their flags cleared, and its own flag. -/
theorem make_eq_ok {α : Type} [Ord α] {spans : List (Span α)} {n : Bool} {u : SpanList α} :
    make spans n = .ok u ↔
      u.members.toList = spans.map (·.withNullAllowed false) ∧ u.nullAllowed = n := by
  rw [make]
  constructor
  · intro h
    split at h
    · split at h <;> cases h
      exact ⟨rfl, rfl⟩
    · cases h
  · -- what the union knows about its members holds of the given spans
    rintro ⟨hmembers, rfl⟩
    obtain ⟨⟨members⟩, n, hsize, hordered, hcleared⟩ := u
    obtain rfl : members = spans.map (·.withNullAllowed false) := hmembers
    have hlength : 2 ≤ spans.length := by simpa using hsize
    rw [dif_pos hlength, dif_pos hordered]

/-- Of any two spans of a union the first ends with a gap before the second, if every span
ascends. -/
theorem pairwise_gap {α : Type} [LinearOrder α] (u : SpanList α)
    (h : ∀ s ∈ u.members.toList, s.toInterval.Ascends) :
    u.members.toList.Pairwise fun s t => s.toInterval.upperCut < t.toInterval.lowerCut := by
  refine List.pairwise_map.mp (Interval.pairwise_gap_of_isChain (List.forall_mem_map.mpr h) ?_)
  refine (List.isChain_map _).mpr ((Span.areAscending_eq_true.mp u.ordered).imp fun s t hst => ?_)
  exact touches_eq_false_iff.mp hst

/-- For every value, the spans whose lower limit admits it come first. -/
def IsSearchable {α : Type} [Ord α] [SpanValue α] (u : SpanList α) : Prop :=
  ∀ v, Bisect.Partitioned (fun s => s.lower.admitsAbove v) u.members

variable {α L : Type} [LinearOrder α] [SpanValue α] [LinearOrder L] {proper : α → Prop}
  {level : α → L}

/-- Spans that are not empty can be searched, if none starts at a value that does not compare
while a greater one does. -/
theorem isSearchable (hg : Graded SpanValue.lt SpanValue.le proper level) (u : SpanList α)
    (hne : ∀ s ∈ u.members.toList, s.toInterval.isEmpty = false)
    (hproper : ∀ s ∈ u.members.toList, ∀ a ∈ s.toInterval.lower.value?,
      ∀ b, a ≤ b → proper b → proper a) : u.IsSearchable := by
  intro v
  have hgap := u.pairwise_gap fun s hs => Interval.ascends_of_isEmpty_eq_false (hne s hs)
  refine hgap.imp_of_mem fun {s t} hs _ hst => ?_
  simp only [Limit.admitsAbove_eq]
  exact Interval.admitsAboveBy_of_gap hg (hne s hs) hst (hproper s hs)

/-- A union holds what one of its spans holds, if they are not empty and bounded by values that
compare. -/
theorem contains_eq_any (hg : Graded SpanValue.lt SpanValue.le proper level) (u : SpanList α)
    (hne : ∀ s ∈ u.members.toList, s.toInterval.isEmpty = false)
    (hproper : ∀ s ∈ u.members.toList, ∀ a ∈ s.toInterval.endValues, proper a) (v : α) :
    u.contains v = u.members.toList.any (·.contains v) := by
  have hgap := u.pairwise_gap fun s hs => Interval.ascends_of_isEmpty_eq_false (hne s hs)
  have hsearch : u.IsSearchable := u.isSearchable hg hne fun s hs a ha _ _ _ =>
    hproper s hs a (Interval.mem_endValues.mpr (.inl ha))
  refine Bisect.any_last? (hsearch v) (fun s _ hs => (Bool.and_eq_true_iff.mp hs).1) ?_
  -- of the spans that the search counts, one that holds the value leaves it to the last
  refine hgap.imp_of_mem fun {s t} _ ht hst hlower hs => ?_
  refine Bool.and_eq_true_iff.mpr ⟨hlower, ?_⟩
  have hupper := (Bool.and_eq_true_iff.mp hs).2
  rw [Limit.admitsBelow_eq] at hupper ⊢
  exact Interval.admitsBelowBy_of_gap hg (hne t ht) hst (fun a ha =>
    hproper t ht a (Interval.mem_endValues.mpr (.inr ha))) hupper

end SpanList

/-! ### Families -/

theorem Hugeint.graded :
    Graded (SpanValue.lt : Hugeint → Hugeint → Bool) SpanValue.le (fun _ => True) id where
  lt_iff := by simp [SpanValue.lt, IntIn.lt_iff]
  le_iff := by simp [SpanValue.le, IntIn.le_iff]
  level_mono := id
  level_lt := lt_trans

theorem Bytes.graded :
    Graded (SpanValue.lt : Bytes → Bytes → Bool) SpanValue.le (fun _ => True) id where
  lt_iff := by simp [SpanValue.lt, compare_lt_iff_lt]
  le_iff := by simp [SpanValue.le, compare_gt_iff_gt]
  level_mono := id
  level_lt := lt_trans

/-- The test of a single value adds nothing: it has the one value between its limits. -/
theorem Span.containsBytes_eq_contains : containsBytes = contains := by
  funext s v
  rw [containsBytes]
  split
  · rename_i hpoint
    obtain ⟨⟨a, al, ae⟩, ⟨b, bu, be⟩, _⟩ := s
    simp only [isPoint, Bool.and_eq_true, Bool.not_eq_true', beq_iff_eq] at hpoint
    obtain ⟨⟨⟨⟨rfl, rfl⟩, rfl⟩, rfl⟩, rfl⟩ := hpoint
    -- a value neither below nor above `a` is `a`
    have hantisymm : a = v ↔ SpanValue.le a v = true ∧ SpanValue.le v a = true := by
      simp [Bytes.graded.le_iff, le_antisymm_iff]
    rw [Bool.eq_iff_iff, beq_iff_eq, hantisymm, ← Bool.and_eq_true]
    rfl
  · rfl

/-- What a family of spans has of its own. -/
structure SpanFamily (α : Type) [Ord α] [SpanValue α] where
  span : Span α → AnySpan
  pick : AnySpan → Option (Span α)
  union : SpanList α → SpanUnion
  probe : α → Probe
  openLower_unbounded : (SpanValue.openLower : Limit α).unbounded = true
  openUpper_unbounded : (SpanValue.openUpper : Limit α).unbounded = true
  family_span (s : Span α) : (span s).family = SpanValue.family α
  pick_span (s : Span α) : pick (span s) = some s
  ofFamily_eq (spans : List AnySpan) (n : Bool) :
    SpanUnion.ofFamily spans n (SpanValue.family α) =
      (SpanList.make (spans.filterMap pick) n).map union
  nullAllowed_span (s : Span α) : (span s).nullAllowed = s.nullAllowed
  nullAllowed_union (u : SpanList α) : (union u).nullAllowed = u.nullAllowed
  test_span (s : Span α) (v : α) :
    (Filter.span (span s)).test? (probe v) = some (s.contains v)
  test_union (u : SpanList α) (v : α) :
    (Filter.spanUnion (union u)).test? (probe v) = some (u.contains v)

namespace SpanFamily

variable {α : Type} [Ord α] [SpanValue α] (F : SpanFamily α) {spans : List (Span α)} {n : Bool}

theorem filterMap_pick : (spans.map F.span).filterMap F.pick = spans := by
  have hpick : F.pick ∘ F.span = some := funext F.pick_span
  rw [List.filterMap_map, hpick, List.filterMap_some]

/-- Spans of one family make a union of that family. -/
theorem make_map : SpanUnion.make (spans.map F.span) n = (SpanList.make spans n).map F.union := by
  match spans with
  | [] => rfl
  | [_] => rfl
  | s :: t :: rest =>
    have hall : ((s :: t :: rest).map F.span).all (·.family == (F.span s).family) = true := by
      simp [F.family_span]
    have hfamily : SpanUnion.ofFamily ((s :: t :: rest).map F.span) n (F.span s).family =
        (SpanList.make (s :: t :: rest) n).map F.union := by
      rw [F.family_span, F.ofFamily_eq, F.filterMap_pick]
    exact (if_pos hall).trans hfamily

/-- Spans of one family make a union when they make a list in ascending order. -/
theorem make_eq_ok {u : SpanUnion} : SpanUnion.make (spans.map F.span) n = .ok u ↔
    ∃ l : SpanList α, l.members.toList = spans.map (·.withNullAllowed false) ∧
      l.nullAllowed = n ∧ F.union l = u := by
  rw [F.make_map]
  simp only [← and_assoc, ← SpanList.make_eq_ok]
  cases SpanList.make spans n <;> simp [Except.map]

include F in
theorem toInterval_toSpan (i : Interval α) (n : Bool) : (i.toSpan n).toInterval = i := by
  rw [Span.toInterval, Interval.toSpan, Span.ofEndpoints,
    Limit.toEndpoint_ofEndpoint F.openLower_unbounded,
    Limit.toEndpoint_ofEndpoint F.openUpper_unbounded]

/-- Double-precision numbers. -/
def double : SpanFamily Double where
  span := .double
  pick := AnySpan.double?
  union := .double
  probe := .double
  openLower_unbounded := rfl
  openUpper_unbounded := rfl
  family_span _ := rfl
  pick_span _ := rfl
  ofFamily_eq _ _ := rfl
  nullAllowed_span _ := rfl
  nullAllowed_union _ := rfl
  test_span _ _ := rfl
  test_union _ _ := rfl

/-- Single-precision numbers. -/
def real : SpanFamily Single where
  span := .real
  pick := AnySpan.real?
  union := .real
  probe := .real
  openLower_unbounded := rfl
  openUpper_unbounded := rfl
  family_span _ := rfl
  pick_span _ := rfl
  ofFamily_eq _ _ := rfl
  nullAllowed_span _ := rfl
  nullAllowed_union _ := rfl
  test_span _ _ := rfl
  test_union _ _ := rfl

/-- Unscaled integers of wide decimals. -/
def decimal : SpanFamily Hugeint where
  span := .decimal
  pick := AnySpan.decimal?
  union := .decimal
  probe := .decimal
  openLower_unbounded := rfl
  openUpper_unbounded := rfl
  family_span _ := rfl
  pick_span _ := rfl
  ofFamily_eq _ _ := rfl
  nullAllowed_span _ := rfl
  nullAllowed_union _ := rfl
  test_span _ _ := rfl
  test_union _ _ := rfl

/-- Byte strings. -/
def bytes : SpanFamily Bytes where
  span := .bytes
  pick := AnySpan.bytes?
  union := .bytes
  probe := .bytes
  openLower_unbounded := rfl
  openUpper_unbounded := rfl
  family_span _ := rfl
  pick_span _ := rfl
  ofFamily_eq _ _ := rfl
  nullAllowed_span _ := rfl
  nullAllowed_union _ := rfl
  test_span s v := by
    rw [← Span.containsBytes_eq_contains]
    rfl
  test_union u v := by
    rw [SpanList.contains, ← Span.containsBytes_eq_contains]
    rfl

end SpanFamily

end ColumnFilter
