/-
Reasons why a domain is not compiled.

Most of them are faults of the domain: a bound of the wrong type, an empty interval, intervals
out of order. Two would be faults of the compiler (`malformed`, `indexOutOfBounds`). An error keeps
the parts at fault, and `CompileError.message` puts them into words.
-/
import ColumnFilter.Filter.ShapeError
import ColumnFilter.Interval.Set
import ColumnFilter.SqlType

namespace ColumnFilter

/-- A reason why a domain is not compiled. -/
inductive CompileError where
  /-- A bound that the type of the column does not accept. -/
  | typeMismatch (type : SqlType) (bound : Scalar)
  | emptyInterval (index : Nat) (interval : Interval Scalar)
  /-- An interval that does not follow its predecessor. -/
  | unordered (index : Nat) (previous next : Interval Scalar)
  /-- An interval whose integers do not follow those of its predecessors, which go from one to the
  other of two ends last. -/
  | integersUnordered (index : Nat) (previous : Bigint × Bigint) (next : Interval Scalar)
  | invalidPrecision (precision : Nat)
  /-- A filter whose parts do not fit together. -/
  | malformed (error : ShapeError)
  /-- A position at which the domain has no interval. -/
  | indexOutOfBounds (count index : Nat)
deriving DecidableEq

namespace CompileError

/-- An interval out of order, in words. -/
def orderMessage (index : Nat) (previous : String) (next : Interval Scalar) : String :=
  "range " ++ next.text Scalar.text ++ " at position " ++ toString index
    ++ " is not strictly after " ++ previous ++ "; domain is not normalized"

/-- The reason in words. -/
def message : CompileError → String
  | typeMismatch type bound =>
    "bound " ++ bound.text ++ " (" ++ bound.kind.name ++ ") is not a legal value for column type "
      ++ type.text
  | emptyInterval index interval =>
    "range " ++ interval.text Scalar.text ++ " at position " ++ toString index ++ " is empty"
  | unordered index previous next => orderMessage index (previous.text Scalar.text) next
  | integersUnordered index previous next =>
    orderMessage index (IntegerRange.endsText previous) next
  | invalidPrecision precision =>
    "decimal precision " ++ toString precision ++ " is outside 1..=38"
  | malformed error => error.message
  | indexOutOfBounds count index =>
    "index out of bounds: the len is " ++ toString count ++ " but the index is " ++ toString index

end CompileError

end ColumnFilter
