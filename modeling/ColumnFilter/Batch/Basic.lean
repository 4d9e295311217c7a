/-
Filtering column batches.

A batch is a layout and a list of slots, each a cell or NULL. `Batch.mask` answers slot by slot:
NULL by the null flag of the filter, a cell by the test of its family. Decimals of at most
eighteen digits are tested as integers and must fit in 64 bits. The first slot without an answer
is the error of the batch; a layout that filters do not read is an error even without slots.

`Batch.selection` numbers the slots that pass in 32 bits, and fails at a slot beyond them.
-/
import ColumnFilter.Batch.Layout
import ColumnFilter.Filter.Probe
import ColumnFilter.SqlType

namespace ColumnFilter

/-- Slots of one layout. -/
structure Batch where
  layout : Layout
  slots : List (Option layout.Cell)

/-- Reasons why a batch is not filtered. -/
inductive BatchError where
  | unsupported (layout : OtherLayout)
  | slot (error : TestError)
deriving DecidableEq

/-- The reason, with the names of what was at fault. -/
def BatchError.message : BatchError → String
  | unsupported layout => "cannot evaluate filter over arrays of type " ++ layout.name
  | slot error => error.message

/-- Reasons why the slots that pass are not numbered. -/
inductive SelectionError where
  | batch (error : BatchError)
  /-- A slot whose position has more than 32 bits. -/
  | rowOverflow (row : Nat)
deriving DecidableEq

/-- The reason, with what was at fault. -/
def SelectionError.message : SelectionError → String
  | batch error => error.message
  | rowOverflow row => "row " ++ toString row ++ " does not fit a u32 selection index"

/-- Whether a cell passes. -/
def Filter.testCell (f : Filter) : (layout : Layout) → layout.Cell → Except TestError Bool
  | .boolean, b => f.test (.boolean b)
  | .int8, n => f.test (.integer (n.widen (by decide) (by decide)))
  | .int16, n => f.test (.integer (n.widen (by decide) (by decide)))
  | .int32, n => f.test (.integer (n.widen (by decide) (by decide)))
  | .int64, n => f.test (.integer n)
  | .date32, n => f.test (.integer (n.widen (by decide) (by decide)))
  | .date64, n => f.test (.integer n)
  | .timestamp _ _, n => f.test (.integer n)
  | .float32, x => f.test (.real x)
  | .float64, x => f.test (.double x)
  | .decimal128 precision scale, n =>
    if precision ≤ SqlType.maxShortPrecision then
      f.testShortDecimal (.declared precision scale) n
    else f.test (.decimal n)
  | .utf8, s => f.test (.bytes (.ofString s))
  | .largeUtf8, s => f.test (.bytes (.ofString s))
  | .binary, b => f.test (.bytes b)
  | .largeBinary, b => f.test (.bytes b)

namespace Batch

/-- The layout, when filters do not read it. -/
def unsupported? (b : Batch) : Option OtherLayout :=
  match b.layout with
  | .other layout => some layout
  | _ => none

/-- The slots from position `offset` on, at most `length` of them. -/
def slice (b : Batch) (offset length : Nat) : Batch :=
  ⟨b.layout, (b.slots.drop offset).take length⟩

/-- Whether a slot passes. -/
def testSlot (f : Filter) (layout : Layout) : Option layout.Cell → Except TestError Bool
  | none => .ok f.testNull
  | some cell => f.testCell layout cell

/-- For each slot, whether it passes. -/
def mask (f : Filter) (b : Batch) : Except BatchError (List Bool) :=
  match b.unsupported? with
  | some layout => .error (.unsupported layout)
  | none => (b.slots.mapM (testSlot f b.layout)).mapError .slot

/-- The positions of the slots that pass, in ascending order. -/
def selectedRows (f : Filter) (b : Batch) : Except BatchError (List Nat) :=
  (mask f b).map fun passes => (passes.zipIdx.filter (·.1)).map (·.2)

/-- A position in 32 bits. -/
def rowNumber (row : Nat) : Except SelectionError UInt32 :=
  if h : row < UInt32.size then .ok (.ofNatLT row h) else .error (.rowOverflow row)

/-- The positions of the slots that pass, in 32 bits. -/
def selection (f : Filter) (b : Batch) : Except SelectionError (List UInt32) := do
  let rows ← (selectedRows f b).mapError .batch
  rows.mapM rowNumber

end Batch

end ColumnFilter
