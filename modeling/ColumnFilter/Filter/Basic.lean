/-
Filters over one column.

A filter decides about values and about NULL. The four constant filters answer every value alike;
each other filter answers the values of its own family and refuses the rest. NULL is decided by a
flag, which the constant filters have in their names and the other filters in their part.
-/
import ColumnFilter.Filter.IntegerUnion
import ColumnFilter.Filter.IntegerSet
import ColumnFilter.Filter.SpanUnion
import ColumnFilter.Filter.BytesSet

namespace ColumnFilter

/-- What passes of a column. -/
inductive Filter where
  | alwaysTrue
  | alwaysFalse
  | isNull
  | isNotNull
  | boolean (b nullAllowed : Bool)
  | integerRange (r : IntegerRange)
  | integerUnion (u : IntegerUnion)
  | integerSet (s : IntegerSet)
  | span (s : AnySpan)
  | spanUnion (u : SpanUnion)
  | bytesSet (s : BytesSet)
deriving DecidableEq

/-! ### Kinds -/

/-- The kinds of filters. -/
inductive FilterKind where
  | alwaysTrue
  | alwaysFalse
  | isNull
  | isNotNull
  | booleanValue
  | integerRange
  | integerUnion
  | integerSet
  | doubleRange
  | realRange
  | decimalRange
  | bytesRange
  | bytesSet
  | spanUnion
deriving DecidableEq

/-- Name of a kind, in logs and errors. -/
def FilterKind.name : FilterKind → String
  | alwaysTrue => "always_true"
  | alwaysFalse => "always_false"
  | isNull => "is_null"
  | isNotNull => "is_not_null"
  | booleanValue => "boolean_value"
  | integerRange => "bigint_range"
  | integerUnion => "bigint_multi_range"
  | integerSet => "bigint_values"
  | doubleRange => "double_range"
  | realRange => "float_range"
  | decimalRange => "decimal_range"
  | bytesRange => "bytes_range"
  | bytesSet => "bytes_values"
  | spanUnion => "multi_range"

namespace Filter

/-- The kind of a filter. -/
def kind : Filter → FilterKind
  | alwaysTrue => .alwaysTrue
  | alwaysFalse => .alwaysFalse
  | isNull => .isNull
  | isNotNull => .isNotNull
  | boolean _ _ => .booleanValue
  | integerRange _ => .integerRange
  | integerUnion _ => .integerUnion
  | integerSet _ => .integerSet
  | span (.double _) => .doubleRange
  | span (.real _) => .realRange
  | span (.decimal _) => .decimalRange
  | span (.bytes _) => .bytesRange
  | spanUnion _ => .spanUnion
  | bytesSet _ => .bytesSet

/-- Whether NULL passes. -/
def nullAllowed : Filter → Bool
  | alwaysTrue => true
  | alwaysFalse => false
  | isNull => true
  | isNotNull => false
  | boolean _ nullAllowed => nullAllowed
  | integerRange r => r.nullAllowed
  | integerUnion u => u.nullAllowed
  | integerSet s => s.nullAllowed
  | span s => s.nullAllowed
  | spanUnion u => u.nullAllowed
  | bytesSet s => s.nullAllowed

/-- The answer to every value, of a filter that ignores values. -/
def constant? : Filter → Option Bool
  | alwaysTrue => some true
  | isNotNull => some true
  | alwaysFalse => some false
  | isNull => some false
  | _ => none

/-- Whether the filter is one of those over integers. -/
def isInteger : Filter → Bool
  | integerRange _ => true
  | integerUnion _ => true
  | integerSet _ => true
  | _ => false

/-! ### Constant filters -/

/-- The filter of no value. -/
def nothing (nullAllowed : Bool) : Filter := if nullAllowed then isNull else alwaysFalse

/-- The filter of every value. -/
def everything (nullAllowed : Bool) : Filter := if nullAllowed then alwaysTrue else isNotNull

@[simp] theorem constant?_nothing (n : Bool) : (nothing n).constant? = some false := by
  cases n <;> rfl

@[simp] theorem constant?_everything (n : Bool) : (everything n).constant? = some true := by
  cases n <;> rfl

/-! ### Text -/

/-- The part of a filter, or the name of a constant one. -/
def partText : Filter → String
  | alwaysTrue => "TRUE"
  | alwaysFalse => "FALSE"
  | isNull => "IS NULL"
  | isNotNull => "IS NOT NULL"
  | boolean b _ => "boolean = " ++ if b then "true" else "false"
  | integerRange r => "bigint" ++ r.text
  | integerUnion u => u.text
  | integerSet s => s.text
  | span s => s.text
  | spanUnion u => u.text
  | bytesSet s => s.text

/-- The condition that the filter stands for. -/
def text (f : Filter) : String :=
  if f.constant?.isNone && f.nullAllowed then f.partText ++ " OR NULL" else f.partText

end Filter

end ColumnFilter
