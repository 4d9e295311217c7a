/-
Spans: ranges whose ends may be open.

A span is laid over floating-point numbers, wide decimals or byte strings, which have no next
value to turn an open end into a closed one. Each of its two limits is a value with two flags;
an unbounded limit keeps its value but never consults it.

Two comparisons are at work. A value is held against the limits by the comparison of its family
(`SpanValue.lt`, `SpanValue.le`), in which a NaN compares with nothing and the two zeros are
equal. Spans are put in order by the total order of the values (`Span.isBefore`).

Byte strings have a test of their own, which compares with a single value at once
(`Span.containsBytes`).
-/
import ColumnFilter.Integer.Bounded
import ColumnFilter.Ieee.Text
import ColumnFilter.Bytes.Text
import ColumnFilter.Interval.Endpoint

namespace ColumnFilter

/-! ### Families -/

/-- A family of values that a span is laid over. -/
inductive Family where
  | double
  | real
  | decimal
  | bytes
deriving DecidableEq

/-- Name of a family. -/
def Family.name : Family → String
  | .double => "double"
  | .real => "real"
  | .decimal => "decimal"
  | .bytes => "bytes"

/-- A limit of a span. -/
structure Limit (α : Type) where
  value : α
  unbounded : Bool
  exclusive : Bool
deriving DecidableEq

/-- Values of one family. -/
class SpanValue (α : Type) where
  family : Family
  /-- `a < b`, when values are held against limits. -/
  lt : α → α → Bool
  /-- `a ≤ b`, when values are held against limits. -/
  le : α → α → Bool
  /-- The limit that stands for a missing lower end. -/
  openLower : Limit α
  /-- The limit that stands for a missing upper end. -/
  openUpper : Limit α
  text : α → String

instance : SpanValue Double where
  family := .double
  lt := Ieee.lt
  le := Ieee.le
  openLower := ⟨Ieee.lowest, true, true⟩
  openUpper := ⟨Ieee.highest, true, true⟩
  text := Ieee.text

instance : SpanValue Single where
  family := .real
  lt := Ieee.lt
  le := Ieee.le
  openLower := ⟨Ieee.lowest, true, true⟩
  openUpper := ⟨Ieee.highest, true, true⟩
  text := Ieee.text

instance : SpanValue Hugeint where
  family := .decimal
  lt a b := a.val < b.val
  le a b := a.val ≤ b.val
  openLower := ⟨Hugeint.least, true, true⟩
  openUpper := ⟨Hugeint.greatest, true, true⟩
  text := IntIn.text

instance : SpanValue Bytes where
  family := .bytes
  lt a b := compare a b == .lt
  le a b := compare a b != .gt
  openLower := ⟨Bytes.empty, true, false⟩
  openUpper := ⟨Bytes.empty, true, false⟩
  text := Bytes.text

/-! ### Limits -/

namespace Limit

variable {α : Type}

/-- The limit that an end of an interval becomes, `missing` standing for no end. -/
def ofEndpoint (missing : Limit α) : Endpoint α → Limit α
  | .unbounded => missing
  | .inclusive a => ⟨a, false, false⟩
  | .exclusive a => ⟨a, false, true⟩

variable [SpanValue α]

/-- Whether a value is on the inner side of a lower limit. -/
def admitsAbove (lower : Limit α) (v : α) : Bool :=
  lower.unbounded ||
    if lower.exclusive then SpanValue.lt lower.value v else SpanValue.le lower.value v

/-- Whether a value is on the inner side of an upper limit. -/
def admitsBelow (upper : Limit α) (v : α) : Bool :=
  upper.unbounded ||
    if upper.exclusive then SpanValue.lt v upper.value else SpanValue.le v upper.value

end Limit

/-! ### Spans -/

/-- A range of values between two limits, and NULL or not. -/
structure Span (α : Type) where
  lower : Limit α
  upper : Limit α
  nullAllowed : Bool
deriving DecidableEq

namespace Span

variable {α : Type}

/-- The same values with another null flag. -/
def withNullAllowed (s : Span α) (nullAllowed : Bool) : Span α := { s with nullAllowed }

@[simp] theorem lower_withNullAllowed (s : Span α) (n : Bool) :
    (s.withNullAllowed n).lower = s.lower := rfl

@[simp] theorem upper_withNullAllowed (s : Span α) (n : Bool) :
    (s.withNullAllowed n).upper = s.upper := rfl

@[simp] theorem nullAllowed_withNullAllowed (s : Span α) (n : Bool) :
    (s.withNullAllowed n).nullAllowed = n := rfl

/-- Whether the span is a single value, bit for bit. -/
def isPoint [DecidableEq α] (s : Span α) : Bool :=
  !s.lower.unbounded && !s.upper.unbounded && !s.lower.exclusive && !s.upper.exclusive
    && s.lower.value == s.upper.value

@[simp] theorem isPoint_withNullAllowed [DecidableEq α] (s : Span α) (n : Bool) :
    (s.withNullAllowed n).isPoint = s.isPoint := rfl

/-- Whether the span ends strictly before `next` starts: at a lesser value, or at the same one
with both limits open. -/
def isBefore [Ord α] (s next : Span α) : Bool :=
  !s.upper.unbounded && !next.lower.unbounded &&
    match compare s.upper.value next.lower.value with
    | .lt => true
    | .eq => s.upper.exclusive && next.lower.exclusive
    | .gt => false

@[simp] theorem isBefore_withNullAllowed [Ord α] (s t : Span α) (m n : Bool) :
    (s.withNullAllowed m).isBefore (t.withNullAllowed n) = s.isBefore t := rfl

/-- Whether each span of a list ends strictly before the next one starts. -/
def areAscending [Ord α] : List (Span α) → Bool
  | s :: t :: rest => s.isBefore t && areAscending (t :: rest)
  | _ => true

variable [SpanValue α]

/-- The span between the ends of an interval. -/
def ofEndpoints (lower upper : Endpoint α) (nullAllowed : Bool) : Span α :=
  ⟨.ofEndpoint SpanValue.openLower lower, .ofEndpoint SpanValue.openUpper upper, nullAllowed⟩

/-- Whether a value is on the inner side of both limits. -/
def contains (s : Span α) (v : α) : Bool := s.lower.admitsAbove v && s.upper.admitsBelow v

@[simp] theorem contains_withNullAllowed (s : Span α) (n : Bool) (v : α) :
    (s.withNullAllowed n).contains v = s.contains v := rfl

/-- Whether a byte string is in the span. A span of one value has it alone. -/
def containsBytes (s : Span Bytes) (v : Bytes) : Bool :=
  if s.isPoint then s.lower.value == v else s.contains v

/-- The family, and the limits as the ends of an interval. -/
def text (s : Span α) : String :=
  let start := if s.lower.unbounded then "(<min>"
    else (if s.lower.exclusive then "(" else "[") ++ SpanValue.text s.lower.value
  let stop := if s.upper.unbounded then "<max>)"
    else SpanValue.text s.upper.value ++ (if s.upper.exclusive then ")" else "]")
  (SpanValue.family α).name ++ start ++ ", " ++ stop

end Span

/-! ### Spans of any family -/

/-- A span of one of the families. -/
inductive AnySpan where
  | double (s : Span Double)
  | real (s : Span Single)
  | decimal (s : Span Hugeint)
  | bytes (s : Span Bytes)
deriving DecidableEq

namespace AnySpan

/-- The family of a span. -/
def family : AnySpan → Family
  | double _ => .double
  | real _ => .real
  | decimal _ => .decimal
  | bytes _ => .bytes

/-- The null flag of a span. -/
def nullAllowed : AnySpan → Bool
  | double s => s.nullAllowed
  | real s => s.nullAllowed
  | decimal s => s.nullAllowed
  | bytes s => s.nullAllowed

/-- The span, of the `double` family. -/
def double? : AnySpan → Option (Span Double)
  | double s => some s
  | _ => none

/-- The span, of the `real` family. -/
def real? : AnySpan → Option (Span Single)
  | real s => some s
  | _ => none

/-- The span, of the `decimal` family. -/
def decimal? : AnySpan → Option (Span Hugeint)
  | decimal s => some s
  | _ => none

/-- The span, of the `bytes` family. -/
def bytes? : AnySpan → Option (Span Bytes)
  | bytes s => some s
  | _ => none

/-- Whether the span is a single value. -/
def isPoint : AnySpan → Bool
  | double s => s.isPoint
  | real s => s.isPoint
  | decimal s => s.isPoint
  | bytes s => s.isPoint

/-- The family and the limits. -/
def text : AnySpan → String
  | double s => s.text
  | real s => s.text
  | decimal s => s.text
  | bytes s => s.text

end AnySpan

end ColumnFilter
