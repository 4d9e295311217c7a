/-
Integer columns compile to filters that hold the same integers.

* `Domain.compile_integers_exact`: a filter compiled for an integer column passes an integer
  exactly when an interval of the domain holds it, the bounds being read as integers; and a
  domain in normal form compiles, when its bounds are accepted and of one kind.

An interval of integers is a range of integers or holds none (`Compile.contains_iff_of_ends?`).
One step of the compilation converts an interval, leaves it out if it holds no integer, and
otherwise puts its range after the previous one (`Compile.integerRangesFrom_cons_eq_ok`). From
this step both halves follow by induction along the list: the ranges hold what the intervals
hold, and ranges of separated intervals are never out of order. What becomes of the ranges is said
once, by `Compile.integerFilter_eq_ok`.
-/
import ColumnFilter.Proofs.Compile.Checks
import ColumnFilter.Proofs.Filter.Integers

namespace ColumnFilter

/-- The integer that a literal stands for. -/
def Scalar.integer? : Scalar → Option Int
  | .int64 n => some n.val
  | .decimal128 n => some n.val
  | _ => none

/-- Literals read as integers. -/
def Reading.integers : Reading Scalar Int := ⟨Scalar.integer?, fun a b => a < b, fun a b => a ≤ b⟩

namespace Compile

variable {type : SqlType}

/-! ### Bounds of integer columns -/

theorem integers_through :
    Reading.integers.Through (integer? type) IntIn.val (fun a b => decide (a < b))
      fun a b => decide (a ≤ b) where
  read_eq {a c} h := by
    cases a with
    | int64 n =>
      cases h
      rfl
    | decimal128 n =>
      simp only [integer?] at h
      split at h
      · exact congrArg some (IntIn.ofInt?_eq_some_iff.mp h).symm
      · cases h
    | _ => cases h
  lt_eq b c := decide_eq_decide.mpr IntIn.lt_iff.symm
  le_eq b c := decide_eq_decide.mpr IntIn.le_iff.symm

theorem admitsBy_integers {i : Interval Scalar} {j : Interval Bigint}
    (h : i.Reads (integer? type) j) (v : Bigint) :
    i.admitsBy .integers v.val = j.contains v :=
  (h.admitsBy integers_through v).trans (j.admitsBy_ordered v)

theorem isSome_integer? (htype : type.typeClass = .integer) {a : Scalar}
    (h : type.accepts a = true) : (integer? type a).isSome = true := by
  cases a with
  | int64 n => rfl
  | decimal128 n =>
    cases type with
    | decimal precision scale =>
      have hle : precision ≤ SqlType.maxShortPrecision := by
        by_contra hgt
        simp [SqlType.typeClass, hgt] at htype
      simpa [SqlType.accepts, integer?, SqlType.isShortDecimal, hle, hle.not_gt] using h
    | _ => cases h
  | _ => cases type <;> simp [SqlType.accepts, SqlType.typeClass] at h htype

/-- Literals of one kind are in the order of their integers. -/
theorem integer?_keepsOrder (kind : ScalarKind) :
    KeepsOrder (integer? type) fun a => a.kind = kind := by
  intro a b c d ha hb hc hd
  cases a with
  | int64 n =>
    cases b <;> cases ha <;> cases hb
    cases hc
    cases hd
    rfl
  | decimal128 n =>
    cases b with
    | decimal128 m =>
      simp only [integer?] at hc hd
      split at hc
      · -- both fit in 64 bits, and keep their values there
        rw [if_pos ‹_›] at hd
        have hc := IntIn.ofInt?_eq_some_iff.mp hc
        have hd := IntIn.ofInt?_eq_some_iff.mp hd
        rw [Scalar.compare_decimal128]
        exact congrArg₂ (compare : Int → Int → Ordering) hc hd
      · cases hc
    | _ =>
      cases ha
      cases hb
  | _ => cases hc

/-! ### Integers of an interval -/

theorem admitsAbove_iff_least {e : Endpoint Bigint} {v : Bigint} :
    e.admitsAbove v = true ↔ ∃ least ∈ leastInteger? e, least.val ≤ v.val := by
  rw [Endpoint.admitsAbove_iff]
  cases e with
  | unbounded => simp [leastInteger?, Endpoint.lowerCut, v.lo_le, Bigint.least]
  | inclusive n => simp [leastInteger?, Endpoint.lowerCut, IntIn.le_iff]
  | exclusive n =>
    simp only [leastInteger?, Endpoint.lowerCut, Cut.after_le_before, IntIn.lt_iff, IntIn.next?,
      Option.mem_def, IntIn.ofInt?_eq_some_iff]
    -- above an open end, the least integer is the next one, if there is one
    constructor
    · intro h
      have := n.lo_le
      have := v.le_hi
      exact ⟨⟨n.val + 1, by omega, by omega⟩, rfl, h⟩
    · rintro ⟨least, hleast, h⟩
      omega

theorem admitsBelow_iff_greatest {e : Endpoint Bigint} {v : Bigint} :
    e.admitsBelow v = true ↔ ∃ greatest ∈ greatestInteger? e, v.val ≤ greatest.val := by
  rw [Endpoint.admitsBelow_iff]
  cases e with
  | unbounded => simp [greatestInteger?, Endpoint.upperCut, v.le_hi, Bigint.greatest]
  | inclusive n => simp [greatestInteger?, Endpoint.upperCut, IntIn.le_iff]
  | exclusive n =>
    simp only [greatestInteger?, Endpoint.upperCut, Cut.before_lt_before, IntIn.lt_iff,
      IntIn.prev?, Option.mem_def, IntIn.ofInt?_eq_some_iff]
    constructor
    · intro h
      have := n.le_hi
      have := v.lo_le
      exact ⟨⟨n.val - 1, by omega, by omega⟩, rfl, by simp only; omega⟩
    · rintro ⟨greatest, hgreatest, h⟩
      omega

/-- The least and the greatest integer of an interval of integers, if it holds any. -/
def ends? (j : Interval Bigint) : Option (Bigint × Bigint) :=
  match leastInteger? j.lower, greatestInteger? j.upper with
  | some least, some greatest =>
    if least.val ≤ greatest.val then some (least, greatest) else none
  | _, _ => none

theorem ends?_eq_some {j : Interval Bigint} {least greatest : Bigint} :
    ends? j = some (least, greatest) ↔ leastInteger? j.lower = some least ∧
      greatestInteger? j.upper = some greatest ∧ least.val ≤ greatest.val := by
  rw [ends?]
  cases leastInteger? j.lower with
  | none => simp
  | some l =>
    cases greatestInteger? j.upper with
    | none => simp
    | some g =>
      simp only [Option.ite_none_right_eq_some, Option.some.injEq, Prod.mk.injEq]
      constructor
      · rintro ⟨h, rfl, rfl⟩
        exact ⟨rfl, rfl, h⟩
      · rintro ⟨rfl, rfl, h⟩
        exact ⟨h, rfl, rfl⟩

theorem contains_iff_of_ends? {j : Interval Bigint} {v : Bigint} :
    j.contains v = true ↔
      ∃ ends ∈ ends? j, ends.1.val ≤ v.val ∧ v.val ≤ ends.2.val := by
  rw [Interval.contains, Bool.and_eq_true, admitsAbove_iff_least, admitsBelow_iff_greatest]
  constructor
  · rintro ⟨⟨least, hl, hlv⟩, ⟨greatest, hg, hvg⟩⟩
    exact ⟨(least, greatest), ends?_eq_some.mpr ⟨hl, hg, by omega⟩, hlv, hvg⟩
  · rintro ⟨⟨least, greatest⟩, h, hlv, hvg⟩
    obtain ⟨hl, hg, _⟩ := ends?_eq_some.mp h
    exact ⟨⟨least, hl, hlv⟩, ⟨greatest, hg, hvg⟩⟩

theorem integerEnds_eq_ok {i : Interval Scalar} {o : Option (Bigint × Bigint)} :
    integerEnds type i = .ok o ↔
      ∃ j : Interval Bigint, i.Reads (integer? type) j ∧ ends? j = o := by
  have hends (l u : Endpoint Bigint) : (match leastInteger? l, greatestInteger? u with
      | some least, some greatest =>
        pure (if least.val ≤ greatest.val then some (least, greatest) else none)
      | _, _ => pure none : Except CompileError _) = .ok (ends? ⟨l, u⟩) := by
    rw [ends?]
    cases leastInteger? l <;> cases greatestInteger? u <;> rfl
  constructor
  · intro h
    obtain ⟨l, hl, h⟩ := bind_eq_ok.mp h
    obtain ⟨u, hu, h⟩ := bind_eq_ok.mp h
    exact ⟨⟨l, u⟩, ⟨traverse_payload.mp hl, traverse_payload.mp hu⟩,
      Except.ok.inj ((hends l u).symm.trans h)⟩
  · rintro ⟨j, hj, rfl⟩
    exact bind_eq_ok.mpr ⟨_, traverse_payload.mpr hj.lower,
      bind_eq_ok.mpr ⟨_, traverse_payload.mpr hj.upper, hends _ _⟩⟩

/-! ### Ranges of a list of intervals -/

section Ranges

variable {n : Bool} {index : Nat} {previous : Option IntegerRange} {i : Interval Scalar}
  {list rest : List (Interval Scalar)} {ranges : List IntegerRange}

/-- One step: an interval is left out if it holds no integer, and otherwise its range comes after
the previous one. -/
theorem integerRangesFrom_cons_eq_ok :
    integerRangesFrom type n index previous (i :: rest) = .ok ranges ↔
      ∃ j : Interval Bigint, i.Reads (integer? type) j ∧
        (ends? j = none ∧ integerRangesFrom type n (index + 1) previous rest = .ok ranges ∨
          ∃ r rs, ends? j = some (r.lower, r.upper) ∧ r.nullAllowed = n ∧
            (∀ p ∈ previous, p.isBelow r = true) ∧
            integerRangesFrom type n (index + 1) (some r) rest = .ok rs ∧ ranges = r :: rs) := by
  simp only [integerRangesFrom, bind_eq_ok, integerEnds_eq_ok]
  constructor
  · rintro ⟨_, ⟨j, hj, rfl⟩, h⟩
    refine ⟨j, hj, ?_⟩
    split at h
    · exact .inl ⟨‹_›, h⟩
    · -- a range is made, and the previous one must end before it
      rename_i least greatest hends
      split at h
      · cases h
      · rename_i hprevious
        simp only [bind_eq_ok, pure_eq_ok, fromParts_eq_ok, IntegerRange.make_eq_ok] at h
        obtain ⟨r, ⟨rfl, rfl, hnull⟩, rs, hrs, rfl⟩ := h
        refine .inr ⟨r, rs, hends, hnull, fun p hp => ?_, hrs, rfl⟩
        have hp' := Option.filter_eq_none_iff.mp hprevious p hp
        simpa [IntegerRange.isBelow] using hp'
  · rintro ⟨j, hj, ⟨hends, h⟩ | ⟨r, rs, hends, hnull, hprevious, hrs, rfl⟩⟩
    · exact ⟨_, ⟨j, hj, hends⟩, h⟩
    · refine ⟨_, ⟨j, hj, hends⟩, ?_⟩
      have hfilter : previous.filter (r.lower.val ≤ ·.upper.val) = none := by
        refine Option.filter_eq_none_iff.mpr fun p hp => ?_
        simpa [IntegerRange.isBelow] using hprevious p hp
      simp only [hfilter, bind_eq_ok, pure_eq_ok, fromParts_eq_ok, IntegerRange.make_eq_ok]
      exact ⟨r, ⟨rfl, rfl, hnull⟩, rs, hrs, rfl⟩

/-- The ranges hold what the intervals hold. -/
theorem any_contains_of_integerRangesFrom
    (h : integerRangesFrom type n index previous list = .ok ranges) (v : Bigint) :
    ranges.any (·.contains v) = list.any (·.admitsBy .integers v.val) := by
  induction list generalizing index previous ranges with
  | nil =>
    cases h
    rfl
  | cons i rest ih =>
    obtain ⟨j, hj, hstep⟩ := integerRangesFrom_cons_eq_ok.mp h
    rw [List.any_cons, admitsBy_integers hj]
    -- an interval that holds no integer adds nothing on either side
    rcases hstep with ⟨hends, hrest⟩ | ⟨r, rs, hends, -, -, hrest, rfl⟩
    · have hj' : j.contains v = false := by
        rw [← Bool.not_eq_true, contains_iff_of_ends?, hends]
        simp
      rw [hj', Bool.false_or, ih hrest]
    · have hj' : j.contains v = r.contains v := by
        rw [Bool.eq_iff_iff, contains_iff_of_ends?, hends, IntegerRange.contains_iff]
        simp
      rw [List.any_cons, ih hrest, hj']

/-- The ranges ascend, from the previous one on. -/
theorem isChain_integerRangesFrom
    (h : integerRangesFrom type n index previous list = .ok ranges) :
    (previous.toList ++ ranges).IsChain fun r s => r.isBelow s = true := by
  -- along the intervals; the chain starts at the previous range, which may be far behind
  induction list generalizing index previous ranges with
  | nil =>
    cases h
    cases previous <;> simp
  | cons i rest ih =>
    obtain ⟨j, -, ⟨-, hrest⟩ | ⟨r, rs, -, -, hprevious, hrest, rfl⟩⟩ :=
      integerRangesFrom_cons_eq_ok.mp h
    · exact ih hrest
    · have hchain := ih hrest
      cases previous with
      | none => exact hchain
      | some p => exact List.isChain_cons_cons.mpr ⟨hprevious p rfl, hchain⟩

/-- Separated intervals have ranges, if the previous one ends before them. -/
theorem exists_integerRangesFrom {converted : List (Interval Bigint)}
    (h : List.Forall₂ (Interval.Reads (integer? type)) list converted)
    (hpair : converted.Pairwise fun i j => i.upperCut < j.lowerCut)
    (hprevious : ∀ p ∈ previous, ∀ j ∈ converted, .before p.upper < j.lowerCut) :
    ∃ ranges, integerRangesFrom type n index previous list = .ok ranges := by
  -- along the list; what is carried is that the last range made so far, of whichever interval,
  -- ends before the intervals still to come
  induction h generalizing index previous with
  | nil => exact ⟨[], rfl⟩
  | @cons i j rest converted hj _ ih =>
    obtain ⟨hjrest, hpair⟩ := List.pairwise_cons.mp hpair
    cases hends : ends? j with
    | none =>
      have hprevious' : ∀ p ∈ previous, ∀ k ∈ converted, .before p.upper < k.lowerCut := by
        intro p hp k hk
        exact hprevious p hp k (List.mem_cons_of_mem _ hk)
      obtain ⟨ranges, hranges⟩ :
          ∃ ranges, integerRangesFrom type n (index + 1) previous rest = .ok ranges :=
        ih hpair hprevious'
      exact ⟨ranges, integerRangesFrom_cons_eq_ok.mpr ⟨j, hj, .inl ⟨hends, hranges⟩⟩⟩
    | some ends =>
      obtain ⟨least, greatest⟩ := ends
      have hle := (ends?_eq_some.mp hends).2.2
      have hcovers (v : Bigint) (hv : least.val ≤ v.val ∧ v.val ≤ greatest.val) :
          j.Covers (.before v) :=
        Interval.contains_iff.mp (contains_iff_of_ends?.mpr ⟨_, hends, hv⟩)
      -- the range of this interval ends inside it, so before the next one
      have hprevious' : ∀ p ∈ some (IntegerRange.mk least greatest n hle), ∀ k ∈ converted,
          .before p.upper < k.lowerCut := by
        rintro p hp k hk
        obtain rfl := Option.some.inj hp
        exact (hcovers greatest ⟨hle, Int.le_refl _⟩).2.trans (hjrest k hk)
      obtain ⟨ranges, hranges⟩ : ∃ ranges, integerRangesFrom type n (index + 1)
          (some ⟨least, greatest, n, hle⟩) rest = .ok ranges := ih hpair hprevious'
      have hbelow : ∀ p ∈ previous, p.isBelow ⟨least, greatest, n, hle⟩ = true := by
        intro p hp
        have hgap : Cut.before p.upper < .before least :=
          (hprevious p hp j List.mem_cons_self).trans_le (hcovers least ⟨Int.le_refl _, hle⟩).1
        exact IntegerRange.isBelow_iff.mpr (IntIn.lt_iff.mp (Cut.before_lt_before.mp hgap))
      exact ⟨_, integerRangesFrom_cons_eq_ok.mpr
        ⟨j, hj, .inr ⟨⟨least, greatest, n, hle⟩, ranges, hends, rfl, hbelow, hranges, rfl⟩⟩⟩

end Ranges

/-! ### Filters of integer columns -/

section Filters

variable {options : Options} {list : List (Interval Scalar)} {n : Bool} {f : Filter}

/-- The filter that an integer column makes of its ranges: none, one, or several, which become a set
when they are points and more than a threshold. -/
inductive Gathers (threshold : Nat) (n : Bool) : List IntegerRange → Filter → Prop
  | nothing : Gathers threshold n [] (.nothing n)
  | range (r : IntegerRange) : Gathers threshold n [r] (.integerRange r)
  | set {ranges : List IntegerRange} {set : IntegerSet} (htwo : 2 ≤ ranges.length)
    (hpoints : threshold < ranges.length ∧ ∀ r ∈ ranges, r.isPoint = true)
    (hset : IntegerSet.make (ranges.map (·.lower)) n = .ok set) :
    Gathers threshold n ranges (.integerSet set)
  | union {ranges : List IntegerRange} {u : IntegerUnion} (htwo : 2 ≤ ranges.length)
    (hpoints : ¬ (threshold < ranges.length ∧ ∀ r ∈ ranges, r.isPoint = true))
    (hu : IntegerUnion.make ranges n = .ok u) : Gathers threshold n ranges (.integerUnion u)

/-- The filter of an integer column is what it makes of the ranges of its intervals. -/
theorem integerFilter_eq_ok : integerFilter options type list n = .ok f ↔
    ∃ ranges, integerRangesFrom type n 0 none list = .ok ranges ∧
      Gathers options.valuesThreshold n ranges f := by
  simp only [integerFilter, bind_eq_ok]
  refine exists_congr fun ranges => and_congr_right fun _ => ?_
  -- the cases of the definition; sets and unions have at least two ranges
  match ranges with
  | [] =>
    constructor
    · rintro ⟨rfl⟩
      exact .nothing
    · intro h
      cases h with
      | nothing => rfl
      | set htwo _ _ => simp at htwo
      | union htwo _ _ => simp at htwo
  | [r] =>
    constructor
    · rintro ⟨rfl⟩
      exact .range r
    · intro h
      cases h with
      | range _ => rfl
      | set htwo _ _ => simp at htwo
      | union htwo _ _ => simp at htwo
  | r :: s :: rest =>
    have htwo : 2 ≤ (r :: s :: rest).length := by simp
    simp only [Bool.and_eq_true, decide_eq_true_iff, List.all_eq_true]
    constructor
    · intro h
      split at h
      · rename_i hpoints
        simp only [bind_eq_ok, pure_eq_ok, fromParts_eq_ok] at h
        obtain ⟨set, hset, rfl⟩ := h
        exact .set htwo hpoints hset
      · rename_i hpoints
        simp only [bind_eq_ok, pure_eq_ok, fromParts_eq_ok] at h
        obtain ⟨u, hu, rfl⟩ := h
        exact .union htwo hpoints hu
    · intro h
      cases h with
      | set _ hpoints hset =>
        rw [if_pos hpoints]
        exact bind_eq_ok.mpr ⟨_, fromParts_eq_ok.mpr hset, rfl⟩
      | union _ hpoints hu =>
        rw [if_neg hpoints]
        exact bind_eq_ok.mpr ⟨_, fromParts_eq_ok.mpr hu, rfl⟩

theorem test_integerFilter (h : integerFilter options type list n = .ok f) (v : Bigint) :
    f.test? (.integer v) = some (list.any (·.admitsBy .integers v.val)) := by
  obtain ⟨ranges, hranges, hf⟩ := integerFilter_eq_ok.mp h
  rw [← any_contains_of_integerRangesFrom hranges]
  cases hf with
  | nothing => exact Filter.test?_nothing n _
  | range r => simp [Filter.test?, Filter.constant?]
  | @set _ set _ hpoints hset =>
    -- a point holds its lower end alone
    have hpoint : ∀ r ∈ ranges, (r.contains v = true ↔ v = r.lower) :=
      fun r hr => IntegerRange.contains_of_isPoint (hpoints.2 r hr)
    show some (set.contains v) = _
    rw [Option.some.injEq, Bool.eq_iff_iff, IntegerSet.make_eq_ok hset, List.any_eq_true,
      List.mem_map]
    constructor
    · rintro ⟨r, hr, rfl⟩
      exact ⟨r, hr, (hpoint r hr).mpr rfl⟩
    · rintro ⟨r, hr, hv⟩
      exact ⟨r, hr, ((hpoint r hr).mp hv).symm⟩
  | union _ _ hu => exact congrArg some (IntegerUnion.contains_of_make hu v)

/-- Ranges make a filter, however many they are. -/
theorem exists_integerFilter_of_ranges {ranges : List IntegerRange}
    (h : integerRangesFrom type n 0 none list = .ok ranges) :
    ∃ f, integerFilter options type list n = .ok f := by
  suffices hf : ∃ f, Gathers options.valuesThreshold n ranges f by
    obtain ⟨f, hf⟩ := hf
    exact ⟨f, integerFilter_eq_ok.mpr ⟨ranges, h, hf⟩⟩
  -- what a union asks for, and whether it becomes one is a matter of the number of ranges
  have hchain := IntegerRange.pairwise_of_isChain (isChain_integerRangesFrom h)
  match ranges, hchain with
  | [], _ => exact ⟨_, .nothing⟩
  | [r], _ => exact ⟨_, .range r⟩
  | r :: s :: rest, hchain =>
    have htwo : 2 ≤ (r :: s :: rest).length := by simp
    by_cases hpoints : options.valuesThreshold < (r :: s :: rest).length ∧
        ∀ t ∈ r :: s :: rest, t.isPoint = true
    · obtain ⟨set, hset⟩ : ∃ set, IntegerSet.make ((r :: s :: rest).map (·.lower)) n = .ok set :=
        IntegerSet.exists_make (by simp)
      exact ⟨.integerSet set, .set htwo hpoints hset⟩
    · obtain ⟨u, hu⟩ : ∃ u, IntegerUnion.make (r :: s :: rest) n = .ok u :=
        IntegerUnion.exists_make (by simp) hchain
      exact ⟨.integerUnion u, .union htwo hpoints hu⟩

theorem exists_integerFilter (htype : type.typeClass = .integer) (hs : Separated list)
    (haccepts : ∀ i ∈ list, ∀ a ∈ i.endValues, type.accepts a = true)
    (hkind : ∃ kind, ∀ i ∈ list, ∀ a ∈ i.endValues, a.kind = kind) :
    ∃ f, integerFilter options type list n = .ok f := by
  obtain ⟨kind, hkind⟩ := hkind
  obtain ⟨converted, hreads⟩ := exists_forall₂_reads fun i hi a ha =>
    isSome_integer? htype (haccepts i hi a ha)
  have hpair := (Separated.of_reads (integer?_keepsOrder kind) hkind hreads hs).pairwise
  obtain ⟨ranges, hranges⟩ : ∃ ranges, integerRangesFrom type n 0 none list = .ok ranges :=
    exists_integerRangesFrom hreads hpair (by simp)
  exact exists_integerFilter_of_ranges hranges

end Filters

end Compile

open Compile in
/-- A filter compiled for an integer column passes the integers that an interval of the domain
holds. A domain in normal form compiles if its bounds are accepted and of one kind. -/
theorem Domain.compile_integers_exact (options : Options) (type : SqlType)
    (htype : type.typeClass = .integer) (d : Domain) :
    (∀ f, d.compile options type = .ok f →
      ∀ v : Bigint, f.test (.integer v) = .ok (d.values.admitsBy .integers v.val)) ∧
    (type.IsProper → d.values.IsNormal →
      (∀ a ∈ d.values.endValues, type.accepts a = true) →
      (∃ kind, ∀ a ∈ d.values.endValues, a.kind = kind) →
      ∃ f, d.compile options type = .ok f) := by
  constructor
  · intro f hf v
    refine test_of_compile_any hf rfl fun list _ _ hlist => ?_
    rw [listFilter_integer htype] at hlist
    exact test_integerFilter hlist v
  · rintro hproper hn haccepts ⟨kind, hkind⟩
    refine exists_compile hproper hn haccepts fun list hd hlist => ?_
    rw [hd, IntervalSet.forall_mem_endValues] at haccepts hkind
    rw [listFilter_integer htype]
    exact exists_integerFilter htype hlist haccepts ⟨kind, hkind⟩

/-- Everything but 0 and 1: the interval in the middle holds no integer. -/
theorem Domain.compile_integers_exact_open_ends :
    ∃ f, (Domain.mk (.intervals
        [⟨.unbounded, .exclusive (.int64 ⟨0, by decide, by decide⟩)⟩,
          ⟨.exclusive (.int64 ⟨0, by decide, by decide⟩),
            .exclusive (.int64 ⟨1, by decide, by decide⟩)⟩,
          ⟨.exclusive (.int64 ⟨1, by decide, by decide⟩), .unbounded⟩]) false).compile
        .standard .bigint = .ok f ∧
      f.test (.integer ⟨0, by decide, by decide⟩) = .ok false ∧
      f.test (.integer .greatest) = .ok true := by
  have h := Domain.compile_integers_exact .standard .bigint rfl (Domain.mk (.intervals
    [⟨.unbounded, .exclusive (.int64 ⟨0, by decide, by decide⟩)⟩,
      ⟨.exclusive (.int64 ⟨0, by decide, by decide⟩),
        .exclusive (.int64 ⟨1, by decide, by decide⟩)⟩,
      ⟨.exclusive (.int64 ⟨1, by decide, by decide⟩), .unbounded⟩]) false)
  obtain ⟨f, hf⟩ := h.2 trivial ⟨by simp, by simp, by decide, by decide⟩ (by decide)
    ⟨.int64, by decide⟩
  exact ⟨f, hf, h.1 f hf _, h.1 f hf _⟩

end ColumnFilter
