/-
Compiling a domain without checking the order of its intervals first.

* `Domain.compile_unvalidated`: for a column whose intervals become spans, a list with accepted
  bounds and no empty interval comes out the same with validation and without: as one filter, or
  as one error, which names the first neighbours out of order.

The check that validation adds compares intervals of literals, their lower ends first and then
the ends that face each other. The family of the column compares the facing limits of converted
spans. On intervals that are not empty the two agree at each step (`Compile.isBefore_toSpan`), so
they fail at the same neighbours (`Compile.checkFrom_eq_checkSpansFrom`).
-/
import ColumnFilter.Proofs.Compile.Bytes
import ColumnFilter.Proofs.Compile.Decimals
import ColumnFilter.Proofs.Compile.Faults
import ColumnFilter.Proofs.Compile.Floats

namespace ColumnFilter

namespace Compile

variable {options : Options} {type : SqlType} {list rest : List (Interval Scalar)}
  {e : CompileError}

/-! ### The strict check on admissible lists -/

/-- On to the next interval, the check compares it with the one before. -/
theorem checkFrom_cons_of_admissible {index : Nat} {p i : Interval Scalar}
    (hstrict : options.validateDomains = true) (hadm : Admissible type (i :: rest)) :
    checkFrom options type index (some p) (i :: rest) =
      if p.precedes i then checkFrom options type (index + 1) (some i) rest
      else .error (.unordered index p i) := by
  obtain ⟨hends, hroom⟩ := hadm i List.mem_cons_self
  rw [checkFrom, unaccepted?_eq_none.mpr hends, hroom, hstrict]
  cases p.precedes i <;> rfl

/-- An admissible list fails at the first interval that its predecessor does not precede. -/
theorem exists_unordered_of_check (hadm : Admissible type list)
    (h : check options type list = .error e) :
    ∃ n p i, list[n]? = some p ∧ list[n + 1]? = some i ∧ p.precedes i = false ∧
      (∀ m < n, ∀ q j, list[m]? = some q → list[m + 1]? = some j → q.precedes j = true) ∧
      e = .unordered (n + 1) p i := by
  obtain ⟨k, ⟨i, hi, hfault⟩, hbefore⟩ := check_eq_error_iff.mp h
  obtain ⟨hends, hroom⟩ := hadm i (List.mem_of_getElem? hi)
  -- an admissible list has accepted bounds and no empty interval, which leaves its order
  cases hfault with
  | lower ha hno =>
    rw [hends _ (Interval.mem_endValues.mpr (.inl ha))] at hno
    cases hno
  | upper _ ha hno =>
    rw [hends _ (Interval.mem_endValues.mpr (.inr ha))] at hno
    cases hno
  | empty _ hempty =>
    rw [hroom] at hempty
    cases hempty
  | @unordered p _ _ hstrict hp hno =>
    cases k with
    | zero => cases hp
    | succ n =>
      refine ⟨n, p, i, hp, hi, hno, fun m hm q j hq hj => ?_, rfl⟩
      by_contra hqj
      exact hbefore (m + 1) (Nat.succ_lt_succ hm)
        ⟨j, hj, .inr (.inr ⟨hstrict, q, hq, Bool.not_eq_true _ ▸ hqj⟩)⟩

/-! ### The check of the spans -/

section Spans

variable {α : Type} [LinearOrder α] [SpanValue α] (F : SpanFamily α)
  {extract : Scalar → Option α} {P : Scalar → Prop} {i i' : Interval Scalar}
  {converted : List (Interval α)} {n : Bool}

include F in
/-- A span ends before another one starts when the interval that it was precedes the other. -/
theorem isBefore_toSpan {j j' : Interval α} (hk : KeepsOrder extract P) (hroom : i.isEmpty = false)
    (hi : ∀ a ∈ i.endValues, P a) (hi' : ∀ a ∈ i'.endValues, P a) (hj : i.Reads extract j)
    (hj' : i'.Reads extract j') : (j.toSpan n).isBefore (j'.toSpan n) = i.precedes i' := by
  have htouches : j.upper.touches j'.lower = i.upper.touches i'.lower :=
    hj.upper.touches_eq hk (Interval.forall_mem_endValues.mp hi).2
      (Interval.forall_mem_endValues.mp hi').1 hj'.lower
  have hroom := Interval.isEmpty_eq_false_iff.mp hroom
  rw [Bool.eq_iff_iff, Span.isBefore_eq_true, F.toInterval_toSpan, F.toInterval_toSpan, htouches,
    touches_eq_false_iff, Interval.precedes_iff]
  exact ⟨fun hgap => ⟨hroom.trans hgap, hgap⟩, And.right⟩

include F in
/-- Along a list, both checks stop at the same neighbours or at none. Those of the spans are looked
up in the whole list, where they are at the positions that the other check counts. -/
theorem checkFrom_eq_checkSpansFrom (hk : KeepsOrder extract P)
    (hstrict : options.validateDomains = true) (hadm : Admissible type (i :: rest))
    (hP : ∀ k ∈ i :: rest, ∀ a ∈ k.endValues, P a)
    (h : List.Forall₂ (Interval.Reads extract) (i :: rest) converted) {index : Nat}
    (hdrop : list.drop index = i :: rest) :
    checkFrom options type (index + 1) (some i) rest =
      checkSpansFrom list index (converted.map (·.toSpan n)) := by
  -- along what is left of the list, from the position of its first interval on
  induction rest generalizing i converted index with
  | nil =>
    cases h with
    | cons _ h =>
      cases h
      rfl
  | cons i' rest ih =>
    cases h with
    | cons hj h =>
      obtain ⟨⟨-, hroom⟩, hadm'⟩ := admissible_cons.mp hadm
      obtain ⟨hPi, hP'⟩ := List.forall_mem_cons.mp hP
      have hdrop' : list.drop (index + 1) = i' :: rest := by
        rw [← List.drop_drop, hdrop]
        rfl
      have hi : list[index]? = some i := by rw [← List.head?_drop, hdrop, List.head?_cons]
      have hi' : list[index + 1]? = some i' := by rw [← List.head?_drop, hdrop', List.head?_cons]
      have hrest := ih hadm' hP' h hdrop'
      cases h with
      | cons hj' h =>
        have hbefore := isBefore_toSpan F (n := n) hk hroom hPi (hP' i' List.mem_cons_self) hj hj'
        rw [checkFrom_cons_of_admissible hstrict hadm', hrest]
        simp only [List.map_cons, checkSpansFrom, hbefore, intervalAt_eq_ok.mpr hi,
          intervalAt_eq_ok.mpr hi']
        rfl

/-- Spans out of order make no filter. -/
theorem spanFilter_eq_error (h : List.Forall₂ (Interval.Reads extract) list converted)
    (hspans : checkSpansFrom list 0 (converted.map (·.toSpan n)) = .error e) :
    spanFilter F.span type extract list n = .error e := by
  refine bind_eq_error.mpr (.inr ⟨_, mapM_spanOf_eq_ok.mpr ⟨converted, h, rfl⟩, ?_⟩)
  split
  · -- a span that stands alone is in order
    rename_i hsingle
    obtain ⟨j, rfl, -⟩ := List.map_eq_singleton_iff.mp hsingle
    cases hspans
  · exact bind_eq_error.mpr (.inl hspans)

/-- Whether spans make a filter, and how they fail to, is what the strict check says. -/
theorem map_spanFilter (hk : KeepsOrder extract P)
    (hextract : ∀ a, P a → (extract a).isSome = true)
    (hstrict : options.validateDomains = true) (hadm : Admissible type list)
    (hP : ∀ i ∈ list, ∀ a ∈ i.endValues, P a) (hne : list ≠ []) :
    (spanFilter F.span type extract list n).map (fun _ => ()) = check options type list := by
  obtain ⟨converted, hreads⟩ := exists_forall₂_reads fun i hi a ha => hextract a (hP i hi a ha)
  obtain ⟨i, rest, rfl⟩ := List.exists_cons_of_ne_nil hne
  -- the first interval has none before it, so the check begins with its successor
  have hcheck : check options type (i :: rest) =
      checkSpansFrom (i :: rest) 0 (converted.map (·.toSpan n)) := by
    obtain ⟨hends, hroom⟩ := hadm i List.mem_cons_self
    rw [← checkFrom_eq_checkSpansFrom F hk hstrict hadm hP hreads List.drop_zero, check, checkFrom,
      unaccepted?_eq_none.mpr hends, hroom]
    rfl
  rw [hcheck]
  cases hspans : checkSpansFrom (i :: rest) 0 (converted.map (·.toSpan n)) with
  | error e => exact map_eq_error.mpr (spanFilter_eq_error F hreads hspans)
  | ok _ =>
    have hascending := checkSpansFrom_eq_ok.mp hspans
    obtain ⟨f, hf⟩ : ∃ f, spanFilter F.span type extract (i :: rest) n = .ok f :=
      exists_spanFilter_of_areAscending hreads hne hascending
    exact map_eq_ok.mpr ⟨f, hf, rfl⟩

end Spans

/-! ### Columns -/

/-- The columns whose families check the order of their spans themselves. Points of a bytes column
become a set, without a check, when they are more than the threshold. -/
inductive RechecksOrder (threshold : Nat) (list : List (Interval Scalar)) : SqlType → Prop
  | real : RechecksOrder threshold list .real
  | double : RechecksOrder threshold list .double
  | decimal {precision scale : Nat} {kind : ScalarKind} (hlong : 19 ≤ precision)
    (hmax : precision ≤ 38) (hkind : ∀ i ∈ list, ∀ a ∈ i.endValues, a.kind = kind) :
    RechecksOrder threshold list (.decimal precision scale)
  | bytes {type : SqlType} (htype : type.typeClass = .bytes)
    (hspans : (∃ i ∈ list, i.isPoint = false) ∨ list.length ≤ threshold) :
    RechecksOrder threshold list type

namespace RechecksOrder

variable {threshold : Nat} {n : Bool}

theorem isProper (h : RechecksOrder threshold list type) : type.IsProper := by
  cases h with
  | real => trivial
  | double => trivial
  | decimal hlong hmax _ => exact ⟨by omega, hmax⟩
  | bytes htype _ => exact isProper_of_bytes htype

theorem bytesFilter_eq {options : Options}
    (hspans : (∃ i ∈ list, i.isPoint = false) ∨ list.length ≤ options.valuesThreshold) :
    bytesFilter options type list n = spanFilter .bytes type Scalar.bytes? list n := by
  have hset : ¬ (options.valuesThreshold < list.length && list.all (·.isPoint)) = true := by
    rw [Bool.and_eq_true, decide_eq_true_iff, List.all_eq_true]
    rintro ⟨hmore, hpoints⟩
    rcases hspans with ⟨i, hi, hno⟩ | hfew
    · rw [hpoints i hi] at hno
      cases hno
    · exact absurd hmore hfew.not_gt
  rw [bytesFilter, if_neg hset]

/-- The outcome of the family is that of the strict check. -/
theorem map_listFilter (h : RechecksOrder threshold list type) (hadm : Admissible type list)
    (hne : list ≠ []) :
    (listFilter ⟨threshold, true⟩ type list n).map (fun _ => ()) =
      check ⟨threshold, true⟩ type list := by
  have haccepts : ∀ i ∈ list, ∀ a ∈ i.endValues, type.accepts a = true := fun i hi => (hadm i hi).1
  cases h with
  | real =>
    exact map_spanFilter .real (FloatWidth.literal?_keepsOrder .real)
      (fun _ => FloatWidth.isSome_literal? (w := .real)) rfl hadm haccepts hne
  | double =>
    exact map_spanFilter .double (FloatWidth.literal?_keepsOrder .double)
      (fun _ => FloatWidth.isSome_literal? (w := .double)) rfl hadm haccepts hne
  | @decimal precision scale kind hlong _ hkind =>
    have hk : KeepsOrder wideDecimal? fun a =>
        (SqlType.decimal precision scale).accepts a = true ∧ a.kind = kind :=
      (wideDecimal?_keepsOrder kind).mono fun _ => And.right
    rw [listFilter_wideDecimal hlong]
    exact map_spanFilter .decimal hk (fun a ha => isSome_wideDecimal? ha.1) rfl hadm
      (fun i hi a ha => ⟨haccepts i hi a ha, hkind i hi a ha⟩) hne
  | bytes htype hspans =>
    rw [listFilter_bytes htype, bytesFilter_eq hspans]
    exact map_spanFilter .bytes (bytes?_keepsOrder htype) (fun _ => isSome_bytes? htype) rfl hadm
      haccepts hne

end RechecksOrder

/-! ### Sets -/

/-- Where the family repeats the strict check, validation makes no difference. -/
theorem valuesFilter_unvalidated {threshold : Nat} {n : Bool} (htype : type.IsProper)
    (hadm : Admissible type list)
    (h : list ≠ [] → (listFilter ⟨threshold, true⟩ type list n).map (fun _ => ()) =
      check ⟨threshold, true⟩ type list) :
    valuesFilter ⟨threshold, true⟩ type (.intervals list) n =
      valuesFilter ⟨threshold, false⟩ type (.intervals list) n := by
  cases list with
  | nil => rfl
  | cons i rest =>
    have hlenient : check ⟨threshold, false⟩ type (i :: rest) = .ok () :=
      check_eq_ok.mpr ⟨hadm, fun hstrict => nomatch hstrict⟩
    have hlist : listFilter ⟨threshold, true⟩ type (i :: rest) n =
        listFilter ⟨threshold, false⟩ type (i :: rest) n := rfl
    rw [valuesFilter_intervals_cons htype, valuesFilter_intervals_cons htype, hlenient, ← hlist]
    cases hcheck : check ⟨threshold, true⟩ type (i :: rest) with
    | ok _ => rfl
    | error e =>
      -- an interval without ends that stands alone would have passed
      have hall : (IntervalSet.intervals (i :: rest)).isAll = false := by
        rw [← Bool.not_eq_true]
        intro hall
        have hlone : i :: rest = [.all] := IntervalSet.toList_of_isAll hall
        have hok : check ⟨threshold, true⟩ type (i :: rest) = .ok () :=
          check_eq_ok.mpr ⟨hadm, fun _ => hlone ▸ .singleton _⟩
        rw [hok] at hcheck
        cases hcheck
      have herror : listFilter ⟨threshold, true⟩ type (i :: rest) n = .error e :=
        map_eq_error.mp ((h (List.cons_ne_nil i rest)).trans hcheck)
      rw [hall, herror]
      rfl

end Compile

open Compile in
/-- Where the family of the column checks the order again, an admissible list has one outcome with
validation and without: a filter, or an error that names the first neighbours out of order. -/
theorem Domain.compile_unvalidated (threshold : Nat) (type : SqlType)
    (list : List (Interval Scalar)) (nullAllowed : Bool)
    (htype : RechecksOrder threshold list type)
    (haccepts : ∀ i ∈ list, ∀ a ∈ i.endValues, type.accepts a = true)
    (hroom : ∀ i ∈ list, i.isEmpty = false) :
    (Domain.mk (.unchecked list) nullAllowed).compile ⟨threshold, true⟩ type
        = (Domain.mk (.unchecked list) nullAllowed).compile ⟨threshold, false⟩ type ∧
      ((∃ f, (Domain.mk (.unchecked list) nullAllowed).compile ⟨threshold, true⟩ type = .ok f) ∨
        ∃ n p i, list[n]? = some p ∧ list[n + 1]? = some i ∧ p.precedes i = false ∧
          (∀ m < n, ∀ q j, list[m]? = some q → list[m + 1]? = some j → q.precedes j = true) ∧
          (Domain.mk (.unchecked list) nullAllowed).compile ⟨threshold, true⟩ type
            = .error (.unordered (n + 1) p i)) := by
  have hadm : Admissible type list := fun i hi => ⟨haccepts i hi, hroom i hi⟩
  have hproper := htype.isProper
  constructor
  · exact valuesFilter_unvalidated hproper hadm (htype.map_listFilter hadm)
  · -- the strict check decides about the outcome, whichever of the two runs
    cases hcheck : check ⟨threshold, true⟩ type list with
    | ok _ =>
      refine .inl (exists_valuesFilter_of_check hproper hcheck fun hne => ?_)
      obtain ⟨f, hf, -⟩ := map_eq_ok.mp ((htype.map_listFilter hadm hne).trans hcheck)
      exact ⟨f, hf⟩
    | error e =>
      obtain ⟨n, p, i, hp, hi, hno, hbefore, rfl⟩ := exists_unordered_of_check hadm hcheck
      exact .inr ⟨n, p, i, hp, hi, hno, hbefore,
        valuesFilter_eq_error_of_check hproper hcheck⟩

/-- Below `2` and from `1` on: the two overlap, and are refused either way. -/
theorem Domain.compile_unvalidated_overlap :
    (Domain.mk (.unchecked [.below (.float64 (.ofBits 0x4000000000000000)),
        .startingAt (.float64 (.ofBits 0x3ff0000000000000))]) false).compile ⟨1, false⟩ .double
      = .error (.unordered 1 (.below (.float64 (.ofBits 0x4000000000000000)))
          (.startingAt (.float64 (.ofBits 0x3ff0000000000000)))) := by
  have h := (Domain.compile_unvalidated 1 .double
    [.below (.float64 (.ofBits 0x4000000000000000)),
      .startingAt (.float64 (.ofBits 0x3ff0000000000000))] false .double (by decide)
    (by decide)).1
  rw [← h]
  rfl

end ColumnFilter
