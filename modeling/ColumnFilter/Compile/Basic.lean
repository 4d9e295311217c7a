/-
Compiling a domain into a filter.

`Domain.compile` turns what a predicate leaves of a column into the filter that a scan applies.
The values decide which filter it is:

* the sets that are everything and nothing become constant filters;
* intervals of an integer column become inclusive ranges, open ends stepping to the next integer,
  and those without an integer are left out; what is left is a range, a union of ranges, or, for
  more than a threshold of single values, a set;
* intervals of the other columns keep their ends and become a span, a union of spans, or, for
  more than a threshold of byte strings, a set.

The null flag goes along to every range and span that is made. A union takes it from the domain
and clears it on its members; of the constant filters, it chooses one.

Nothing is repaired: a bound of the wrong type, an empty interval and intervals out of order are
errors, and the first one found is reported.
-/
import ColumnFilter.Compile.Error
import ColumnFilter.Compile.Options
import ColumnFilter.Domain
import ColumnFilter.Filter.Basic

namespace ColumnFilter.Compile

/-! ### Checks -/

/-- The first value at an end of the interval that a column type does not accept. -/
def unaccepted? (type : SqlType) (i : Interval Scalar) : Option Scalar :=
  i.endValues.find? (!type.accepts ·)

/-- Checks intervals from position `index` on, where `previous` came before them. -/
def checkFrom (options : Options) (type : SqlType) (index : Nat)
    (previous : Option (Interval Scalar)) : List (Interval Scalar) → Except CompileError Unit
  | [] => .ok ()
  | i :: rest =>
    match unaccepted? type i with
    | some bound => .error (.typeMismatch type bound)
    | none =>
      if i.isEmpty then .error (.emptyInterval index i)
      else match previous with
        | none => checkFrom options type (index + 1) (some i) rest
        | some p =>
          if options.validateDomains && !p.precedes i then .error (.unordered index p i)
          else checkFrom options type (index + 1) (some i) rest

/-- Checks the bounds, the room and the order of intervals, position by position. -/
def check (options : Options) (type : SqlType) (list : List (Interval Scalar)) :
    Except CompileError Unit :=
  checkFrom options type 0 none list

/-- The payload of a bound. -/
def payload {α : Type} (type : SqlType) (extract : Scalar → Option α) (bound : Scalar) :
    Except CompileError α :=
  match extract bound with
  | some a => .ok a
  | none => .error (.typeMismatch type bound)

/-- The outcome of making a filter from parts. -/
def fromParts {α : Type} : Except ShapeError α → Except CompileError α :=
  Except.mapError .malformed

/-! ### Booleans -/

/-- The filter that tells apart the truth values in the intervals. -/
def booleanFilter (list : List (Interval Scalar)) (nullAllowed : Bool) : Filter :=
  let holds (b : Bool) := list.any (·.contains (.boolean b))
  match holds false, holds true with
  | true, true => .everything nullAllowed
  | false, false => .nothing nullAllowed
  | false, true => .boolean true nullAllowed
  | true, false => .boolean false nullAllowed

/-! ### Integers -/

/-- The integer that a bound of an integer column stands for. -/
def integer? (type : SqlType) : Scalar → Option Bigint
  | .int64 n => some n
  | .decimal128 n => if type.isShortDecimal then n.toBigint? else none
  | _ => none

/-- The least integer on the inner side of a lower end. -/
def leastInteger? : Endpoint Bigint → Option Bigint
  | .unbounded => some .least
  | .inclusive n => some n
  | .exclusive n => n.next?

/-- The greatest integer on the inner side of an upper end. -/
def greatestInteger? : Endpoint Bigint → Option Bigint
  | .unbounded => some .greatest
  | .inclusive n => some n
  | .exclusive n => n.prev?

/-- The least and the greatest integer of an interval, if it holds any. -/
def integerEnds (type : SqlType) (i : Interval Scalar) :
    Except CompileError (Option (Bigint × Bigint)) := do
  let lower ← i.lower.traverse (payload type (integer? type))
  let upper ← i.upper.traverse (payload type (integer? type))
  match leastInteger? lower, greatestInteger? upper with
  | some least, some greatest =>
    pure (if least.val ≤ greatest.val then some (least, greatest) else none)
  | _, _ => pure none

/-- The ranges of the integers of intervals from position `index` on, where `previous` is the
last range before them. -/
def integerRangesFrom (type : SqlType) (nullAllowed : Bool) (index : Nat)
    (previous : Option IntegerRange) :
    List (Interval Scalar) → Except CompileError (List IntegerRange)
  | [] => .ok []
  | i :: rest => do
    match ← integerEnds type i with
    -- nothing lies between two open ends at neighbours, or beyond the greatest integer
    | none => integerRangesFrom type nullAllowed (index + 1) previous rest
    | some (least, greatest) =>
      -- decided on the integers, since literals of different kinds are ordered by kind
      match previous.filter (least.val ≤ ·.upper.val) with
      | some p => .error (.integersUnordered index p.ends i)
      | none =>
        let r ← fromParts (IntegerRange.make least greatest nullAllowed)
        let rs ← integerRangesFrom type nullAllowed (index + 1) (some r) rest
        pure (r :: rs)

/-- The filter of an integer column. -/
def integerFilter (options : Options) (type : SqlType) (list : List (Interval Scalar))
    (nullAllowed : Bool) : Except CompileError Filter := do
  match ← integerRangesFrom type nullAllowed 0 none list with
  | [] => pure (.nothing nullAllowed)
  | [r] => pure (.integerRange r)
  | ranges =>
    if options.valuesThreshold < ranges.length && ranges.all (·.isPoint) then
      return .integerSet (← fromParts (IntegerSet.make (ranges.map (·.lower)) nullAllowed))
    else
      return .integerUnion (← fromParts (IntegerUnion.make ranges nullAllowed))

/-! ### Spans -/

/-- The span of an interval. -/
def spanOf {α : Type} [SpanValue α] (type : SqlType) (extract : Scalar → Option α)
    (nullAllowed : Bool) (i : Interval Scalar) : Except CompileError (Span α) := do
  let lower ← i.lower.traverse (payload type extract)
  let upper ← i.upper.traverse (payload type extract)
  pure (.ofEndpoints lower upper nullAllowed)

/-- The interval at a position. -/
def intervalAt (list : List (Interval Scalar)) (index : Nat) :
    Except CompileError (Interval Scalar) :=
  match list[index]? with
  | some i => .ok i
  | none => .error (.indexOutOfBounds list.length index)

/-- Checks that each span ends strictly before the next one starts. The first of the spans is that
of the interval at position `index`. -/
def checkSpansFrom {α : Type} [Ord α] (list : List (Interval Scalar)) (index : Nat) :
    List (Span α) → Except CompileError Unit
  | s :: t :: rest =>
    if s.isBefore t then checkSpansFrom list (index + 1) (t :: rest)
    else do throw (.unordered (index + 1) (← intervalAt list index) (← intervalAt list (index + 1)))
  | _ => .ok ()

/-- The filter of a column whose intervals become spans. -/
def spanFilter {α : Type} [Ord α] [SpanValue α] (wrap : Span α → AnySpan) (type : SqlType)
    (extract : Scalar → Option α) (list : List (Interval Scalar)) (nullAllowed : Bool) :
    Except CompileError Filter := do
  match ← list.mapM (spanOf type extract nullAllowed) with
  | [s] => pure (.span (wrap s))
  | spans =>
    checkSpansFrom list 0 spans
    return .spanUnion (← fromParts (SpanUnion.make (spans.map wrap) nullAllowed))

/-- The unscaled integer that a bound of a wide decimal column stands for. -/
def wideDecimal? : Scalar → Option Hugeint
  | .decimal128 n => some n
  | .int64 n => some n.toHugeint
  | _ => none

/-- The filter of a column of texts or byte strings. -/
def bytesFilter (options : Options) (type : SqlType) (list : List (Interval Scalar))
    (nullAllowed : Bool) : Except CompileError Filter := do
  if options.valuesThreshold < list.length && list.all (·.isPoint) then
    let values ← (list.filterMap (·.point?)).mapM (payload type Scalar.bytes?)
    return .bytesSet (← fromParts (BytesSet.make values nullAllowed))
  else spanFilter .bytes type Scalar.bytes? list nullAllowed

/-! ### Domains -/

/-- The filter of intervals that passed the checks. -/
def listFilter (options : Options) (type : SqlType) (list : List (Interval Scalar))
    (nullAllowed : Bool) : Except CompileError Filter :=
  match type.typeClass with
  | .boolean => .ok (booleanFilter list nullAllowed)
  | .integer => integerFilter options type list nullAllowed
  | .double => spanFilter .double type Scalar.float64? list nullAllowed
  | .real => spanFilter .real type Scalar.float32? list nullAllowed
  | .longDecimal => spanFilter .decimal type wideDecimal? list nullAllowed
  | .bytes => bytesFilter options type list nullAllowed

/-- The precision of a decimal type that no decimal can have. -/
def invalidPrecision? : SqlType → Option Nat
  | .decimal precision _ =>
    if precision = 0 ∨ SqlType.maxPrecision < precision then some precision else none
  | _ => none

/-- The filter of a set of values. -/
def valuesFilter (options : Options) (type : SqlType) (values : IntervalSet Scalar)
    (nullAllowed : Bool) : Except CompileError Filter :=
  match invalidPrecision? type with
  | some precision => .error (.invalidPrecision precision)
  | none =>
    match values with
    | .none => .ok (.nothing nullAllowed)
    | .all => .ok (.everything nullAllowed)
    | .intervals [] => .ok (.nothing nullAllowed)
    | .intervals list => do
      check options type list
      if values.isAll then pure (.everything nullAllowed)
      else listFilter options type list nullAllowed

end Compile

/-- The filter that passes what the domain allows of a column of the given type. -/
def Domain.compile (options : Options) (type : SqlType) (d : Domain) :
    Except CompileError Filter :=
  Compile.valuesFilter options type d.values d.nullAllowed

end ColumnFilter
