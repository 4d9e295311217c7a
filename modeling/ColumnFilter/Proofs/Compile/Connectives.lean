/-
Disjunction and conjunction on floating-point columns.

* `Domain.compile_connectives_floats`: the filter of a union is the disjunction of the filters and
  the filter of an intersection is their conjunction, on every number but the zeros; and on the
  zeros too, unless the two sets meet there in one of five ways for each connective.

Sets are united and intersected in the total order, where `-0` and `0` are two members with a cut
between them. What a filter answers at a zero is a majority of three facts about that place
(`AtZeros.accepts`). The connectives act on each of the three facts, and a majority does not
follow them: below `0` and above `-0` both reject the zeros, and their union is everything.
-/
import ColumnFilter.Proofs.Compile.Complement

namespace ColumnFilter

/-! ### Sets at the zeros -/

/-- What a set covers at the zeros: `-0`, the cut between the two, and `0`. -/
structure AtZeros where
  minus : Bool
  between : Bool
  plus : Bool
deriving DecidableEq

namespace AtZeros

/-- The answer of a filter at the zeros of either sign. -/
def accepts (z : AtZeros) : Bool :=
  z.minus && !z.between || !z.between && z.plus || z.plus && z.minus

/-- What a union covers. -/
def or (y z : AtZeros) : AtZeros :=
  ⟨y.minus || z.minus, y.between || z.between, y.plus || z.plus⟩

/-- What an intersection covers. -/
def and (y z : AtZeros) : AtZeros :=
  ⟨y.minus && z.minus, y.between && z.between, y.plus && z.plus⟩

/-- `-0`, and nothing from there on: accepted. -/
def upToMinus : AtZeros := ⟨true, false, false⟩

/-- `-0` and on, but not `0`: rejected. -/
def belowPlus : AtZeros := ⟨true, true, false⟩

/-- From after `-0` on: rejected. -/
def aboveMinus : AtZeros := ⟨false, true, true⟩

/-- From `0` on: accepted. -/
def fromPlus : AtZeros := ⟨false, false, true⟩

/-- Neither zero, but the cut between them: rejected. -/
def inBetween : AtZeros := ⟨false, true, false⟩

/-- Both zeros, and not the cut between them: accepted. -/
def apart : AtZeros := ⟨true, false, true⟩

/-- The pairs whose union does not answer as the disjunction: the first gains the zeros, and the
others lose them. -/
def unionClashes : List (AtZeros × AtZeros) :=
  [(belowPlus, aboveMinus), (upToMinus, belowPlus), (upToMinus, inBetween),
    (fromPlus, aboveMinus), (fromPlus, inBetween)]

/-- The pairs whose intersection does not answer as the conjunction: the first loses the zeros, and
the others gain them. -/
def intersectionClashes : List (AtZeros × AtZeros) :=
  [(upToMinus, fromPlus), (upToMinus, belowPlus), (apart, belowPlus), (fromPlus, aboveMinus),
    (apart, aboveMinus)]

/-- Whether two sets are a listed pair, in either order. -/
def clash (pairs : List (AtZeros × AtZeros)) (y z : AtZeros) : Bool :=
  pairs.contains (y, z) || pairs.contains (z, y)

theorem accepts_or (y z : AtZeros) :
    (y.or z).accepts = (y.accepts || z.accepts) ↔ clash unionClashes y z = false := by
  obtain ⟨m, b, p⟩ := y
  obtain ⟨m', b', p'⟩ := z
  revert m b p m' b' p'
  decide

theorem accepts_and (y z : AtZeros) :
    (y.and z).accepts = (y.accepts && z.accepts) ↔ clash intersectionClashes y z = false := by
  obtain ⟨m, b, p⟩ := y
  obtain ⟨m', b', p'⟩ := z
  revert m b p m' b' p'
  decide

theorem accepts_iff_twoOf {z : AtZeros} :
    z.accepts = true ↔ TwoOf (z.minus = true) (¬ z.between = true) (z.plus = true) := by
  simp [accepts, TwoOf, or_assoc]

end AtZeros

/-- Whether an interval reaches beyond a value from before it or from right after it. -/
def Interval.goesOnAfter {α : Type} [Ord α] (i : Interval α) (a : α) : Bool :=
  i.lower.compareLower (.exclusive a) != .gt && i.upper.compareUpper (.inclusive a) == .gt

theorem Interval.goesOnAfter_iff {α : Type} [LinearOrder α] {i : Interval α} {a : α} :
    i.goesOnAfter a = true ↔ i.Covers (.after a) := by
  rw [goesOnAfter, Bool.and_eq_true, bne_iff_ne, ne_eq, beq_iff_eq, Endpoint.compareLower_eq_gt,
    Endpoint.compareUpper_eq_gt, not_lt]
  exact Iff.rfl

namespace IntervalSet

variable {w : FloatWidth} {s t : IntervalSet Scalar}

/-- What a set of numbers covers at the zeros. -/
def atZeros (w : FloatWidth) (s : IntervalSet Scalar) : AtZeros where
  minus := s.contains (w.literal (.zero true))
  between := s.toList.any (·.goesOnAfter (w.literal (.zero true)))
  plus := s.contains (w.literal (.zero false))

theorem atZeros_minus :
    (s.atZeros w).minus = true ↔ s.Covers (.before (w.literal (.zero true))) :=
  contains_iff

theorem atZeros_between :
    (s.atZeros w).between = true ↔ s.Covers (.after (w.literal (.zero true))) := by
  rw [atZeros, List.any_eq_true]
  exact exists_congr fun i => and_congr_right fun _ => Interval.goesOnAfter_iff

theorem atZeros_plus :
    (s.atZeros w).plus = true ↔ s.Covers (.before (w.literal (.zero false))) :=
  contains_iff

theorem atZeros_union : (s.union t).atZeros w = (s.atZeros w).or (t.atZeros w) := by
  have hbetween : ((s.union t).atZeros w).between
      = ((s.atZeros w).between || (t.atZeros w).between) := by
    rw [Bool.eq_iff_iff, Bool.or_eq_true, atZeros_between, atZeros_between, atZeros_between,
      covers_union]
  rw [AtZeros.or, ← hbetween]
  simp only [atZeros, contains_union]

theorem atZeros_intersect : (s.intersect t).atZeros w = (s.atZeros w).and (t.atZeros w) := by
  have hbetween : ((s.intersect t).atZeros w).between
      = ((s.atZeros w).between && (t.atZeros w).between) := by
    rw [Bool.eq_iff_iff, Bool.and_eq_true, atZeros_between, atZeros_between, atZeros_between,
      covers_intersect]
  rw [AtZeros.and, ← hbetween]
  simp only [atZeros, contains_intersect]

end IntervalSet

/-! ### Answers -/

namespace Compile

variable {options : Options} {w : FloatWidth} {s t u : IntervalSet Scalar} {v : Ieee w.format}

/-- A set in normal form with numbers at its ends. -/
structure OfNumbers (w : FloatWidth) (s : IntervalSet Scalar) : Prop where
  normal : s.IsNormal
  number : ∀ a ∈ s.endValues, w.IsNumber a

namespace OfNumbers

theorem union (hs : OfNumbers w s) (ht : OfNumbers w t) : OfNumbers w (s.union t) where
  normal := IntervalSet.isNormal_union hs.normal ht.normal
  number := IntervalSet.forall_endValues_union hs.number ht.number

theorem intersect (hs : OfNumbers w s) (ht : OfNumbers w t) : OfNumbers w (s.intersect t) where
  normal := IntervalSet.isNormal_intersect hs.normal ht.normal
  number := IntervalSet.forall_endValues_intersect hs.number ht.number

theorem admitsBy_of_isZero (hs : OfNumbers w s) (hv : v.isNaN = false) (hzero : v.isZero = true) :
    s.admitsBy (.floats w) v = (s.atZeros w).accepts := by
  rw [Bool.eq_iff_iff, admitsBy_iff_twoOf hs.normal hs.number (Ieee.levelEnds_zero hzero) hv,
    AtZeros.accepts_iff_twoOf, IntervalSet.atZeros_minus, IntervalSet.atZeros_between,
    IntervalSet.atZeros_plus]

/-- Away from the zeros, a set admits its members. -/
theorem admitsBy_of_isZero_eq_false (hs : OfNumbers w s) (hv : v.isNaN = false)
    (hzero : v.isZero = false) : s.admitsBy (.floats w) v = s.contains (w.literal v) := by
  rw [Bool.eq_iff_iff, admitsBy_iff_twoOf hs.normal hs.number (Ieee.levelEnds_self hzero) hv,
    IntervalSet.contains_iff]
  unfold TwoOf
  tauto

/-- A set whose members are those of two sets under a connective admits numbers accordingly, but
for what the connective makes of the answers at the zeros. -/
theorem admitsBy_eq_iff {op : Bool → Bool → Bool} {P : Prop} (hs : OfNumbers w s)
    (ht : OfNumbers w t) (hu : OfNumbers w u) (hv : v.isNaN = false)
    (hcontains : ∀ a, u.contains a = op (s.contains a) (t.contains a))
    (hzeros : (u.atZeros w).accepts = op (s.atZeros w).accepts (t.atZeros w).accepts ↔ P) :
    u.admitsBy (.floats w) v = op (s.admitsBy (.floats w) v) (t.admitsBy (.floats w) v) ↔
      (v.isZero = true → P) := by
  -- away from the zeros a filter answers as membership, which the connective respects
  cases hzero : v.isZero with
  | false =>
    have hmember : u.admitsBy (.floats w) v
        = op (s.admitsBy (.floats w) v) (t.admitsBy (.floats w) v) := by
      rw [hs.admitsBy_of_isZero_eq_false hv hzero, ht.admitsBy_of_isZero_eq_false hv hzero,
        hu.admitsBy_of_isZero_eq_false hv hzero, hcontains]
    exact iff_of_true hmember (fun h => nomatch h)
  | true =>
    rw [hs.admitsBy_of_isZero hv hzero, ht.admitsBy_of_isZero hv hzero,
      hu.admitsBy_of_isZero hv hzero, hzeros]
    exact ⟨fun h _ => h, fun h => h rfl⟩

/-- A union admits what either set does, unless the two clash at a zero. -/
theorem admitsBy_union_iff (hs : OfNumbers w s) (ht : OfNumbers w t) (hv : v.isNaN = false) :
    (s.union t).admitsBy (.floats w) v
        = (s.admitsBy (.floats w) v || t.admitsBy (.floats w) v) ↔
      (v.isZero = true →
        AtZeros.clash AtZeros.unionClashes (s.atZeros w) (t.atZeros w) = false) := by
  refine admitsBy_eq_iff hs ht (hs.union ht) hv IntervalSet.contains_union ?_
  rw [IntervalSet.atZeros_union, AtZeros.accepts_or]

/-- An intersection admits what both sets do, unless the two clash at a zero. -/
theorem admitsBy_intersect_iff (hs : OfNumbers w s) (ht : OfNumbers w t) (hv : v.isNaN = false) :
    (s.intersect t).admitsBy (.floats w) v
        = (s.admitsBy (.floats w) v && t.admitsBy (.floats w) v) ↔
      (v.isZero = true →
        AtZeros.clash AtZeros.intersectionClashes (s.atZeros w) (t.atZeros w) = false) := by
  refine admitsBy_eq_iff hs ht (hs.intersect ht) hv IntervalSet.contains_intersect ?_
  rw [IntervalSet.atZeros_intersect, AtZeros.accepts_and]

theorem exists_compile (hs : OfNumbers w s) (nullAllowed : Bool) :
    ∃ f, (Domain.mk s nullAllowed).compile options w.type = .ok f ∧
      ∀ v, f.test (w.probe v) = .ok (s.admitsBy (.floats w) v) :=
  exists_compile_floats hs.normal hs.number nullAllowed

end OfNumbers

end Compile

open Compile in
/-- Two domains of numbers in normal form, their union and their intersection all compile for a
floating-point column. The filter of the union answers a number as one of the two filters does,
and that of the intersection as both do, exactly unless the number is a zero and the two sets are
a listed pair there. -/
theorem Domain.compile_connectives_floats (options : Options) (w : FloatWidth) (d e : Domain)
    (hd : d.values.IsNormal) (he : e.values.IsNormal)
    (hdnumber : ∀ a ∈ d.values.endValues, w.IsNumber a)
    (henumber : ∀ a ∈ e.values.endValues, w.IsNumber a) :
    ∃ f g disj conj, d.compile options w.type = .ok f ∧ e.compile options w.type = .ok g ∧
      (d.union e).compile options w.type = .ok disj ∧
      (d.intersect e).compile options w.type = .ok conj ∧
      ∀ v, v.isNaN = false → ∃ a b c c',
        f.test (w.probe v) = .ok a ∧ g.test (w.probe v) = .ok b ∧
        disj.test (w.probe v) = .ok c ∧ conj.test (w.probe v) = .ok c' ∧
        (c = (a || b) ↔ (v.isZero = true → AtZeros.clash AtZeros.unionClashes
          (d.values.atZeros w) (e.values.atZeros w) = false)) ∧
        (c' = (a && b) ↔ (v.isZero = true → AtZeros.clash AtZeros.intersectionClashes
          (d.values.atZeros w) (e.values.atZeros w) = false)) := by
  have hs : OfNumbers w d.values := ⟨hd, hdnumber⟩
  have ht : OfNumbers w e.values := ⟨he, henumber⟩
  obtain ⟨f, hf, ftest⟩ := hs.exists_compile d.nullAllowed
  obtain ⟨g, hg, gtest⟩ := ht.exists_compile e.nullAllowed
  obtain ⟨disj, hdisj, disjtest⟩ := (hs.union ht).exists_compile (d.nullAllowed || e.nullAllowed)
  obtain ⟨conj, hconj, conjtest⟩ :=
    (hs.intersect ht).exists_compile (d.nullAllowed && e.nullAllowed)
  -- all four compile; what is left is whether their answers agree
  refine ⟨f, g, disj, conj, hf, hg, hdisj, hconj, fun v hv => ?_⟩
  exact ⟨_, _, _, _, ftest v, gtest v, disjtest v, conjtest v, hs.admitsBy_union_iff ht hv,
    hs.admitsBy_intersect_iff ht hv⟩

/-! ### Sets that end at a zero -/

namespace IntervalSet

open Compile

/-- The numbers up to `-0`. -/
def upToMinusZero : IntervalSet Scalar :=
  intervals [.upTo (.float64 (.ofBits 0x8000000000000000))]

/-- The numbers below `0`. -/
def belowZero : IntervalSet Scalar := intervals [.below (.float64 (.ofBits 0))]

/-- The numbers from `0` on. -/
def fromZero : IntervalSet Scalar := intervals [.startingAt (.float64 (.ofBits 0))]

/-- A set with one number at its ends. -/
theorem ofNumbers_of_endValues {w : FloatWidth} {s : IntervalSet Scalar} (x : Ieee w.format)
    (hs : s.IsNormal) (h : s.endValues = [w.literal x]) (hx : x.isNaN = false) :
    OfNumbers w s where
  normal := hs
  number := by
    rw [h]
    exact List.forall_mem_singleton.mpr ⟨x, rfl, hx⟩

theorem ofNumbers_upToMinusZero : OfNumbers .double upToMinusZero :=
  ofNumbers_of_endValues (.ofBits 0x8000000000000000) ⟨by simp, by decide, by decide, by decide⟩ rfl
    (by decide)

theorem ofNumbers_belowZero : OfNumbers .double belowZero :=
  ofNumbers_of_endValues (.ofBits 0) ⟨by simp, by decide, by decide, by decide⟩ rfl (by decide)

theorem ofNumbers_fromZero : OfNumbers .double fromZero :=
  ofNumbers_of_endValues (.ofBits 0) ⟨by simp, by decide, by decide, by decide⟩ rfl (by decide)

/-- What the filter of a set answers at `0`. -/
theorem test_zero {s : IntervalSet Scalar} {f : Filter} (hs : OfNumbers .double s)
    (h : ∀ v, f.test (FloatWidth.double.probe v) = .ok (s.admitsBy (.floats .double) v)) :
    f.test (.double (.ofBits 0)) = .ok (s.atZeros .double).accepts := by
  rw [← hs.admitsBy_of_isZero (v := .ofBits 0) (by decide) (by decide)]
  exact h (.ofBits 0)

end IntervalSet

open IntervalSet in
/-- Up to `-0`, and from `0` on: both filters accept `0`, and so does that of the union, but not
that of the intersection, which is empty. -/
theorem Domain.compile_connectives_floats_two_sides :
    ∃ f g disj conj, (Domain.mk upToMinusZero false).compile .standard .double = .ok f ∧
      (Domain.mk fromZero true).compile .standard .double = .ok g ∧
      ((Domain.mk upToMinusZero false).union ⟨fromZero, true⟩).compile .standard .double
        = .ok disj ∧
      ((Domain.mk upToMinusZero false).intersect ⟨fromZero, true⟩).compile .standard .double
        = .ok conj ∧
      f.test (.double (.ofBits 0)) = .ok true ∧ g.test (.double (.ofBits 0)) = .ok true ∧
      disj.test (.double (.ofBits 0)) = .ok true ∧
      conj.test (.double (.ofBits 0)) = .ok false := by
  obtain ⟨f, g, disj, conj, hf, hg, hdisj, hconj, hanswers⟩ :=
    Domain.compile_connectives_floats .standard .double ⟨upToMinusZero, false⟩ ⟨fromZero, true⟩
      ofNumbers_upToMinusZero.normal ofNumbers_fromZero.normal ofNumbers_upToMinusZero.number
      ofNumbers_fromZero.number
  obtain ⟨a, b, c, c', ha, hb, hc, hc', hor, hand⟩ := hanswers (.ofBits 0) (by decide)
  have hftest : f.test (.double (.ofBits 0)) = .ok true := by
    obtain rfl := Except.ok.inj hf
    rfl
  have hgtest : g.test (.double (.ofBits 0)) = .ok true := by
    obtain rfl := Except.ok.inj hg
    rfl
  obtain rfl : true = a := Except.ok.inj (hftest.symm.trans ha)
  obtain rfl : true = b := Except.ok.inj (hgtest.symm.trans hb)
  have hunion : c = true := hor.mpr fun _ => by decide
  have hintersection : c' = false := by
    rw [← Bool.not_eq_true]
    exact fun h => absurd (hand.mp h (by decide)) (by decide)
  rw [hunion] at hc
  rw [hintersection] at hc'
  exact ⟨f, g, disj, conj, hf, hg, hdisj, hconj, ha, hb, hc, hc'⟩

open IntervalSet in
/-- Up to `-0`, and below `0`: one filter accepts `0` and the other does not. That of the union
rejects it, and that of the intersection accepts it. -/
theorem Domain.compile_connectives_floats_clash :
    (upToMinusZero.IsNormal ∧ ∀ a ∈ upToMinusZero.endValues, FloatWidth.double.IsNumber a) ∧
      (belowZero.IsNormal ∧ ∀ a ∈ belowZero.endValues, FloatWidth.double.IsNumber a) ∧
      ∃ f g disj conj, (Domain.mk upToMinusZero false).compile .standard .double = .ok f ∧
        (Domain.mk belowZero false).compile .standard .double = .ok g ∧
        ((Domain.mk upToMinusZero false).union ⟨belowZero, false⟩).compile .standard .double
          = .ok disj ∧
        ((Domain.mk upToMinusZero false).intersect ⟨belowZero, false⟩).compile .standard .double
          = .ok conj ∧
        f.test (.double (.ofBits 0)) = .ok true ∧ g.test (.double (.ofBits 0)) = .ok false ∧
        disj.test (.double (.ofBits 0)) = .ok false ∧
        conj.test (.double (.ofBits 0)) = .ok true := by
  have hs := ofNumbers_upToMinusZero
  have ht := ofNumbers_belowZero
  obtain ⟨f, hf, ftest⟩ := hs.exists_compile false
  obtain ⟨g, hg, gtest⟩ := ht.exists_compile false
  obtain ⟨disj, hdisj, disjtest⟩ := (hs.union ht).exists_compile false
  obtain ⟨conj, hconj, conjtest⟩ := (hs.intersect ht).exists_compile false
  refine ⟨⟨hs.normal, hs.number⟩, ⟨ht.normal, ht.number⟩, f, g, disj, conj, hf, hg, hdisj, hconj,
    ?_, ?_, ?_, ?_⟩
  · rw [test_zero hs ftest]
    decide
  · rw [test_zero ht gtest]
    decide
  · rw [test_zero (hs.union ht) disjtest, atZeros_union]
    decide
  · rw [test_zero (hs.intersect ht) conjtest, atZeros_intersect]
    decide

end ColumnFilter
