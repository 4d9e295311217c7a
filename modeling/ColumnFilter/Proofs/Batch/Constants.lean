/-
Constant filters over batches.

* `Batch.mask_constant`: a filter that is always true or false, or asks for NULL or for its
  absence, answers a batch by which of its slots are NULL, as it answers the literals one by one;
  but it fails at the first decimal of a short column that has more than 64 bits.

The filter ignores a value, and the batch does not: it brings decimals of a short column to 64
bits before it asks (`Layout.refusal?`). For literals the filter is asked first, so they all have
answers (`Batch.map_testScalar_constant`).
-/
import ColumnFilter.Proofs.Batch.Rows
import ColumnFilter.Proofs.Filter.Families

namespace ColumnFilter

/-- What a batch makes of a cell that it does not bring to the family of its layout. -/
def Layout.refusal? : (layout : Layout) → layout.Cell → Option TestError
  | .decimal128 precision scale, n =>
    if precision ≤ SqlType.maxShortPrecision ∧ n.toBigint? = none then
      some (.outOfRange n (.declared precision scale))
    else none
  | _, _ => none

namespace Batch

/-- The first refusal of a cell. -/
def refusal? (b : Batch) : Option TestError :=
  b.slots.findSome? (·.bind b.layout.refusal?)

variable {f : Filter} {outcome : Bool} {layout : Layout} {e : TestError}

/-! ### Slots -/

/-- A refused cell fails, whatever the filter. -/
theorem testCell_of_refusal?_eq_some {cell : layout.Cell} (h : layout.refusal? cell = some e) :
    f.testCell layout cell = .error e := by
  cases layout with
  | decimal128 precision scale =>
    obtain ⟨⟨hshort, hlarge⟩, he⟩ := Option.ite_none_right_eq_some.mp h
    rw [Filter.testCell, if_pos hshort, Filter.testShortDecimal, hlarge, Option.some.inj he]
  | _ => cases h

theorem testCell_constant (hf : f.constant? = some outcome) {cell : layout.Cell}
    (h : layout.refusal? cell = none) : f.testCell layout cell = .ok outcome := by
  cases layout with
  | decimal128 precision scale =>
    -- a short column asks for 64 bits before it asks the filter
    by_cases hshort : precision ≤ SqlType.maxShortPrecision
    · have hfits : cell.toBigint? ≠ none := by
        intro hlarge
        rw [Layout.refusal?, if_pos ⟨hshort, hlarge⟩] at h
        cases h
      obtain ⟨n, hn⟩ := Option.ne_none_iff_exists'.mp hfits
      rw [Filter.testCell, if_pos hshort, Filter.testShortDecimal, hn]
      exact Filter.test_of_constant? hf _
    · rw [Filter.testCell, if_neg hshort]
      exact Filter.test_of_constant? hf _
  | other layout => exact cell.elim
  | _ => exact Filter.test_of_constant? hf _

/-- One slot: refused, or answered unseen. -/
theorem testSlot_constant (hf : f.constant? = some outcome) (slot : Option layout.Cell) :
    testSlot f layout slot =
      (slot.bind layout.refusal?).elim (.ok (f.unseen outcome slot)) .error := by
  cases slot with
  | none => rfl
  | some cell =>
    rw [Option.bind_some]
    cases h : layout.refusal? cell with
    | none => exact testCell_constant hf h
    | some e => exact testCell_of_refusal?_eq_some h

/-- Slot after slot, up to the first cell that is refused. -/
theorem mapM_testSlot_constant (hf : f.constant? = some outcome)
    (slots : List (Option layout.Cell)) :
    slots.mapM (testSlot f layout) =
      (slots.findSome? (·.bind layout.refusal?)).elim (.ok (slots.map (f.unseen outcome)))
        .error := by
  induction slots with
  | nil => rfl
  | cons slot slots ih =>
    rw [List.findSome?_cons, List.mapM_cons, testSlot_constant hf, ih]
    cases slot.bind layout.refusal? with
    | some e => rfl
    | none => cases slots.findSome? (·.bind layout.refusal?) <;> rfl

/-! ### Batches -/

/-- One by one, the slots all have answers. -/
theorem map_testScalar_constant (hf : f.constant? = some outcome) (b : Batch) :
    b.literals.map f.testScalar = (b.slots.map (f.unseen outcome)).map .ok := by
  rw [literals, List.map_map, List.map_map]
  refine List.map_congr_left fun slot _ => ?_
  rw [Function.comp_apply, Filter.testScalar_of_constant? hf]
  cases slot <;> rfl

/-- A constant filter answers NULL by its flag and any value by its outcome. A batch of a layout
that filters read has these answers, if it refuses no cell; otherwise it fails as the first cell
that is refused. -/
theorem mask_constant (f : Filter) (outcome : Bool) (hf : f.constant? = some outcome)
    (b : Batch) (hread : b.unsupported? = none) :
    b.literals.map f.testScalar = (b.slots.map (f.unseen outcome)).map .ok ∧
      (b.refusal? = none → b.mask f = .ok (b.slots.map (f.unseen outcome))) ∧
      ∀ e, b.refusal? = some e → b.mask f = .error (.slot e) := by
  rw [mask_of_unsupported?_eq_none hread, mapM_testSlot_constant hf]
  refine ⟨map_testScalar_constant hf b, fun h => ?_, fun e h => ?_⟩
  · rw [refusal?] at h
    rw [h]
    rfl
  · rw [refusal?] at h
    rw [h]
    rfl

/-- Of a text and NULL a filter for NULL passes the second; a filter for anything else fails at a
decimal of 128 bits. -/
theorem mask_constant_is_null :
    mask .isNull ⟨.utf8, [some "a", none]⟩ = .ok [false, true] ∧
      mask .isNotNull ⟨.decimal128 18 0, [none, some .greatest]⟩
        = .error (.slot (.outOfRange .greatest (.declared 18 0))) :=
  ⟨(mask_constant .isNull false rfl ⟨.utf8, [some "a", none]⟩ rfl).2.1 rfl,
    (mask_constant .isNotNull true rfl ⟨.decimal128 18 0, [none, some .greatest]⟩ rfl).2.2 _
      (by decide)⟩

/-- A filter that is always true has an answer for a decimal of 65 bits, and none for a batch of
it. -/
theorem mask_constant_refused :
    Filter.testScalar .alwaysTrue
        (some (.decimal128 ⟨18446744073709551616, by decide, by decide⟩)) = .ok true ∧
      mask .alwaysTrue
        ⟨.decimal128 10 2, [some ⟨18446744073709551616, by decide, by decide⟩]⟩
        = .error (.slot (.outOfRange ⟨18446744073709551616, by decide, by decide⟩
          (.declared 10 2))) :=
  ⟨rfl, by decide⟩

end Batch

end ColumnFilter
