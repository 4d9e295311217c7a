/-
Filters that differ in their null flag alone.

`Filter.withNullAllowed` sets the flag of a filter where the filter has it: in its part, or, for a
constant filter, in the choice between two of them. The members of a union keep theirs.

* Parts are made alike with either flag: what is made with one flag is what is made with another,
  relabelled (`IntegerSet.make_eq_map` and its companions). A union takes no notice of the flags of
  the parts that it is made of (`IntegerUnion.make_map_eq_map`, `SpanUnion.make_map_eq_map`).
* `Filter.test_withNullAllowed` and its companions: the flag has no part in the answer to a value,
  errors included. An error names the kind of its filter, and the kind of a constant filter depends
  on the flag; but a constant filter answers every value.
-/
import ColumnFilter.Filter.Probe
import ColumnFilter.Proofs.Filter.Integers

namespace ColumnFilter

/-! ### Integers -/

theorem IntegerRange.make_eq_map (lower upper : Bigint) (m n : Bool) :
    make lower upper n = (make lower upper m).map (·.withNullAllowed n) := by
  rw [make, make, ofEnds?, ofEnds?]
  by_cases h : lower.val ≤ upper.val
  · rw [dif_pos h, dif_pos h]
    rfl
  · rw [dif_neg h, dif_neg h]
    rfl

namespace IntegerUnion

/-- The same union with another null flag. -/
def withNullAllowed (u : IntegerUnion) (nullAllowed : Bool) : IntegerUnion :=
  { u with nullAllowed }

theorem ext_members {u v : IntegerUnion} (h : u.members = v.members)
    (hnull : u.nullAllowed = v.nullAllowed) : u = v := by
  obtain ⟨_, _, _, _, _⟩ := u
  obtain ⟨_, _, _, _, _⟩ := v
  cases h
  cases hnull
  rfl

/-- A union takes its own flag alone, whatever flags the ranges have. -/
theorem make_map_eq_map (ranges : List IntegerRange) (k m n : Bool) :
    make (ranges.map (·.withNullAllowed k)) n = (make ranges m).map (·.withNullAllowed n) := by
  by_cases hsize : 2 ≤ ranges.length
  · have hsize' : 2 ≤ (ranges.map (·.withNullAllowed k)).length := by rwa [List.length_map]
    have hoverlap' := IntegerRange.firstOverlap?_map_withNullAllowed k ranges
    cases hoverlap : IntegerRange.firstOverlap? ranges with
    | none =>
      rw [hoverlap] at hoverlap'
      obtain ⟨u, hu⟩ : ∃ u, make ranges m = .ok u := exists_make_of_firstOverlap? hsize hoverlap
      obtain ⟨v, hv⟩ : ∃ v, make (ranges.map (·.withNullAllowed k)) n = .ok v :=
        exists_make_of_firstOverlap? hsize' hoverlap'
      obtain ⟨hmembers, -⟩ := of_make hu
      obtain ⟨hmembers', hnull⟩ := of_make hv
      rw [hu, hv]
      refine congrArg Except.ok (ext_members (Array.toList_inj.mp ?_) hnull)
      -- clearing a flag forgets what it was set to
      rw [hmembers', List.map_map]
      exact hmembers.symm
    | some p =>
      rw [hoverlap] at hoverlap'
      rw [make_eq_error_of_firstOverlap? hsize hoverlap,
        make_eq_error_of_firstOverlap? hsize' hoverlap']
      rfl
  · have hsize' : ¬ 2 ≤ (ranges.map (·.withNullAllowed k)).length := by rwa [List.length_map]
    rw [make, make, dif_neg hsize, dif_neg hsize']
    rfl

end IntegerUnion

/-! ### Sets -/

namespace IntegerSet

/-- The same set with another null flag. -/
def withNullAllowed (s : IntegerSet) (nullAllowed : Bool) : IntegerSet := { s with nullAllowed }

theorem make_eq_map (values : List Bigint) (m n : Bool) :
    make values n = (make values m).map (·.withNullAllowed n) := by
  rw [make, make]
  split <;> rfl

end IntegerSet

namespace BytesSet

/-- The same set with another null flag. -/
def withNullAllowed (s : BytesSet) (nullAllowed : Bool) : BytesSet := { s with nullAllowed }

theorem make_eq_map (values : List Bytes) (m n : Bool) :
    make values n = (make values m).map (·.withNullAllowed n) := by
  rw [make, make]
  split <;> rfl

end BytesSet

/-! ### Spans -/

namespace AnySpan

/-- The same values with another null flag. -/
def withNullAllowed (nullAllowed : Bool) : AnySpan → AnySpan
  | double s => double (s.withNullAllowed nullAllowed)
  | real s => real (s.withNullAllowed nullAllowed)
  | decimal s => decimal (s.withNullAllowed nullAllowed)
  | bytes s => bytes (s.withNullAllowed nullAllowed)

@[simp] theorem family_withNullAllowed (s : AnySpan) (n : Bool) :
    (s.withNullAllowed n).family = s.family := by
  cases s <;> rfl

theorem double?_withNullAllowed (s : AnySpan) (n : Bool) :
    (s.withNullAllowed n).double? = s.double?.map (·.withNullAllowed n) := by
  cases s <;> rfl

theorem real?_withNullAllowed (s : AnySpan) (n : Bool) :
    (s.withNullAllowed n).real? = s.real?.map (·.withNullAllowed n) := by
  cases s <;> rfl

theorem decimal?_withNullAllowed (s : AnySpan) (n : Bool) :
    (s.withNullAllowed n).decimal? = s.decimal?.map (·.withNullAllowed n) := by
  cases s <;> rfl

theorem bytes?_withNullAllowed (s : AnySpan) (n : Bool) :
    (s.withNullAllowed n).bytes? = s.bytes?.map (·.withNullAllowed n) := by
  cases s <;> rfl

end AnySpan

namespace SpanList

variable {α : Type} [Ord α]

/-- The same union with another null flag. -/
def withNullAllowed (u : SpanList α) (nullAllowed : Bool) : SpanList α := { u with nullAllowed }

/-- A union takes its own flag alone, whatever flags the spans have. -/
theorem make_map_eq_map (spans : List (Span α)) (k m n : Bool) :
    make (spans.map (·.withNullAllowed k)) n = (make spans m).map (·.withNullAllowed n) := by
  -- clearing a flag forgets what it was set to
  have hcleared : (spans.map (·.withNullAllowed k)).map (·.withNullAllowed false) =
      spans.map (·.withNullAllowed false) := by
    rw [List.map_map]
    rfl
  rw [make, make]
  by_cases hsize : 2 ≤ spans.length
  · rw [dif_pos hsize, dif_pos (by rwa [List.length_map])]
    by_cases horder : Span.areAscending (spans.map (·.withNullAllowed false)) = true
    · rw [dif_pos horder, dif_pos (by rwa [hcleared])]
      simp only [hcleared]
      rfl
    · rw [dif_neg horder, dif_neg (by rwa [hcleared])]
      rfl
  · rw [dif_neg hsize, dif_neg (by rwa [List.length_map])]
    rfl

end SpanList

namespace SpanUnion

/-- The same union with another null flag. -/
def withNullAllowed (nullAllowed : Bool) : SpanUnion → SpanUnion
  | double u => double (u.withNullAllowed nullAllowed)
  | real u => real (u.withNullAllowed nullAllowed)
  | decimal u => decimal (u.withNullAllowed nullAllowed)
  | bytes u => bytes (u.withNullAllowed nullAllowed)

variable {α : Type} [Ord α] {pick : AnySpan → Option (Span α)} {union : SpanList α → SpanUnion}

/-- One family: the spans of a family are relabelled where they are picked. -/
theorem make_filterMap_eq_map {k n : Bool}
    (hpick : ∀ s, pick (s.withNullAllowed k) = (pick s).map (·.withNullAllowed k))
    (hunion : ∀ u, union (u.withNullAllowed n) = (union u).withNullAllowed n)
    (spans : List AnySpan) (m : Bool) :
    (SpanList.make ((spans.map (·.withNullAllowed k)).filterMap pick) n).map union =
      ((SpanList.make (spans.filterMap pick) m).map union).map (·.withNullAllowed n) := by
  have hspans : (spans.map (·.withNullAllowed k)).filterMap pick =
      (spans.filterMap pick).map (·.withNullAllowed k) := by
    rw [List.filterMap_map, List.map_filterMap]
    exact List.filterMap_congr fun s _ => hpick s
  -- a span is picked for its family, whatever its flag
  rw [hspans, SpanList.make_map_eq_map _ k m n]
  cases SpanList.make (spans.filterMap pick) m with
  | error e => rfl
  | ok u => exact congrArg Except.ok (hunion u)

theorem ofFamily_map_eq_map (spans : List AnySpan) (k m n : Bool) (family : Family) :
    ofFamily (spans.map (·.withNullAllowed k)) n family =
      (ofFamily spans m family).map (·.withNullAllowed n) := by
  cases family with
  | double =>
    exact make_filterMap_eq_map (AnySpan.double?_withNullAllowed · k) (fun _ => rfl) spans m
  | real =>
    exact make_filterMap_eq_map (AnySpan.real?_withNullAllowed · k) (fun _ => rfl) spans m
  | decimal =>
    exact make_filterMap_eq_map (AnySpan.decimal?_withNullAllowed · k) (fun _ => rfl) spans m
  | bytes =>
    exact make_filterMap_eq_map (AnySpan.bytes?_withNullAllowed · k) (fun _ => rfl) spans m

/-- A union takes its own flag alone, whatever flags the spans have. -/
theorem make_map_eq_map (spans : List AnySpan) (k m n : Bool) :
    make (spans.map (·.withNullAllowed k)) n = (make spans m).map (·.withNullAllowed n) := by
  match spans with
  | [] => rfl
  | [_] => rfl
  | s :: t :: rest =>
    have hall : ((s :: t :: rest).map (·.withNullAllowed k)).all
        (·.family == (s.withNullAllowed k).family) =
          (s :: t :: rest).all (·.family == s.family) := by
      rw [List.all_map]
      simp only [Function.comp_def, AnySpan.family_withNullAllowed]
    -- spans of several families are refused alike, by the family of the first
    show (if _ then _ else _) = Except.map _ (if _ then _ else _)
    by_cases h : (s :: t :: rest).all (·.family == s.family) = true
    · rw [if_pos h, if_pos (hall.trans h), AnySpan.family_withNullAllowed]
      exact ofFamily_map_eq_map (s :: t :: rest) k m n s.family
    · rw [if_neg h, if_neg (hall ▸ h), AnySpan.family_withNullAllowed]
      rfl

end SpanUnion

/-! ### Filters -/

namespace Filter

/-- The filter that answers every value alike, and NULL as the flag says. -/
def withNullAllowed (nullAllowed : Bool) : Filter → Filter
  | alwaysTrue => everything nullAllowed
  | alwaysFalse => nothing nullAllowed
  | isNull => nothing nullAllowed
  | isNotNull => everything nullAllowed
  | boolean b _ => boolean b nullAllowed
  | integerRange r => integerRange (r.withNullAllowed nullAllowed)
  | integerUnion u => integerUnion (u.withNullAllowed nullAllowed)
  | integerSet s => integerSet (s.withNullAllowed nullAllowed)
  | span s => span (s.withNullAllowed nullAllowed)
  | spanUnion u => spanUnion (u.withNullAllowed nullAllowed)
  | bytesSet s => bytesSet (s.withNullAllowed nullAllowed)

@[simp] theorem withNullAllowed_nothing (m n : Bool) :
    (nothing m).withNullAllowed n = nothing n := by
  cases m <;> rfl

@[simp] theorem withNullAllowed_everything (m n : Bool) :
    (everything m).withNullAllowed n = everything n := by
  cases m <;> rfl

@[simp] theorem withNullAllowed_boolean (b m n : Bool) :
    (boolean b m).withNullAllowed n = boolean b n :=
  rfl

variable (f : Filter) (n : Bool)

@[simp] theorem nullAllowed_withNullAllowed : (f.withNullAllowed n).nullAllowed = n := by
  rcases f with _ | _ | _ | _ | _ | _ | _ | _ | (_ | _ | _ | _) | (_ | _ | _ | _) | _ <;>
    cases n <;> rfl

@[simp] theorem constant?_withNullAllowed : (f.withNullAllowed n).constant? = f.constant? := by
  cases f <;> cases n <;> rfl

@[simp] theorem isInteger_withNullAllowed : (f.withNullAllowed n).isInteger = f.isInteger := by
  cases f <;> cases n <;> rfl

@[simp] theorem test?_withNullAllowed (v : Probe) : (f.withNullAllowed n).test? v = f.test? v := by
  cases hconstant : f.constant? with
  | some outcome =>
    have hconstant' := (constant?_withNullAllowed f n).trans hconstant
    rw [test?_of_constant? hconstant, test?_of_constant? hconstant']
  | none =>
    -- the part is looked up by the same kind and tested by the same limits
    rcases f with _ | _ | _ | _ | _ | _ | _ | _ | (_ | _ | _ | _) | (_ | _ | _ | _) | _ <;>
      cases hconstant <;> cases v <;> rfl

/-- The kind depends on the flag for constant filters only. -/
theorem kind_withNullAllowed (h : f.constant? = none) : (f.withNullAllowed n).kind = f.kind := by
  rcases f with _ | _ | _ | _ | _ | _ | _ | _ | (_ | _ | _ | _) | (_ | _ | _ | _) | _ <;>
    first | rfl | cases h

@[simp] theorem test_withNullAllowed (v : Probe) : (f.withNullAllowed n).test v = f.test v := by
  rw [test, test, test?_withNullAllowed]
  cases hv : f.test? v with
  | some passes => rfl
  | none =>
    cases hconstant : f.constant? with
    | some outcome =>
      rw [test?_of_constant? hconstant] at hv
      cases hv
    | none => rw [kind_withNullAllowed f n hconstant]

@[simp] theorem testWords_withNullAllowed (high : Bigint) (low : Word) :
    (f.withNullAllowed n).testWords high low = f.testWords high low :=
  test_withNullAllowed f n _

@[simp] theorem testShortDecimal_withNullAllowed (column : ShortDecimal) (v : Hugeint) :
    (f.withNullAllowed n).testShortDecimal column v = f.testShortDecimal column v := by
  rw [testShortDecimal, testShortDecimal]
  cases v.toBigint? with
  | some k => exact test_withNullAllowed f n _
  | none => rfl

@[simp] theorem testValue_withNullAllowed (v : Scalar) :
    (f.withNullAllowed n).testValue v = f.testValue v := by
  cases v <;> simp [testValue]

end Filter

end ColumnFilter
