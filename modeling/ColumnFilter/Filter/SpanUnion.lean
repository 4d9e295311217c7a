/-
Unions of spans of one family.

Two or more spans, each strictly before the next. A value is looked up by binary search on the
lower limits: of the spans whose lower limit admits the value, only the last is tested. NULL is a
matter of the union, whose members have their own flags cleared.
-/
import ColumnFilter.Filter.ShapeError
import ColumnFilter.Order.Bisect

namespace ColumnFilter

/-! ### One family -/

/-- Two or more spans in ascending order, and NULL or not. -/
structure SpanList (α : Type) [Ord α] where
  members : Array (Span α)
  nullAllowed : Bool
  two_le_size : 2 ≤ members.size
  ordered : Span.areAscending members.toList = true
  cleared : ∀ s ∈ members.toList, s.nullAllowed = false
deriving DecidableEq

namespace SpanList

variable {α : Type} [Ord α]

/-- The union of the given spans, whatever their flags. -/
def make (spans : List (Span α)) (nullAllowed : Bool) : Except ShapeError (SpanList α) :=
  if hsize : 2 ≤ spans.length then
    if horder : Span.areAscending (spans.map (·.withNullAllowed false)) = true then
      .ok {
        members := (spans.map (·.withNullAllowed false)).toArray
        nullAllowed
        two_le_size := by simpa using hsize
        ordered := horder
        cleared := List.forall_mem_map.mpr fun _ _ => rfl }
    else .error .spanOrder
  else .error .fewSpans

variable [SpanValue α]

/-- Whether the last span whose lower limit admits a value passes a test. -/
def searchBy (test : Span α → α → Bool) (u : SpanList α) (v : α) : Bool :=
  (Bisect.last? (fun s => s.lower.admitsAbove v) u.members).any (test · v)

/-- Whether the last span whose lower limit admits a value contains it. -/
def contains (u : SpanList α) (v : α) : Bool := u.searchBy Span.contains v

end SpanList

/-! ### Any family -/

/-- A union of spans of one of the families. -/
inductive SpanUnion where
  | double (u : SpanList Double)
  | real (u : SpanList Single)
  | decimal (u : SpanList Hugeint)
  | bytes (u : SpanList Bytes)
deriving DecidableEq

namespace SpanUnion

/-- The family of the spans. -/
def family : SpanUnion → Family
  | double _ => .double
  | real _ => .real
  | decimal _ => .decimal
  | bytes _ => .bytes

/-- The null flag of the union. -/
def nullAllowed : SpanUnion → Bool
  | double u => u.nullAllowed
  | real u => u.nullAllowed
  | decimal u => u.nullAllowed
  | bytes u => u.nullAllowed

/-- The spans in ascending order. -/
def toList : SpanUnion → List AnySpan
  | double u => u.members.toList.map .double
  | real u => u.members.toList.map .real
  | decimal u => u.members.toList.map .decimal
  | bytes u => u.members.toList.map .bytes

/-- The union of those of the spans that are of a family. -/
def ofFamily (spans : List AnySpan) (nullAllowed : Bool) : Family → Except ShapeError SpanUnion
  | .double => (SpanList.make (spans.filterMap AnySpan.double?) nullAllowed).map double
  | .real => (SpanList.make (spans.filterMap AnySpan.real?) nullAllowed).map real
  | .decimal => (SpanList.make (spans.filterMap AnySpan.decimal?) nullAllowed).map decimal
  | .bytes => (SpanList.make (spans.filterMap AnySpan.bytes?) nullAllowed).map bytes

/-- The union of the given spans, which must be of one family. -/
def make (spans : List AnySpan) (nullAllowed : Bool) : Except ShapeError SpanUnion :=
  match spans with
  | first :: _ :: _ =>
    if spans.all (·.family == first.family) then
      -- the family is that of every span, so nothing is lost
      ofFamily spans nullAllowed first.family
    else .error (.mixedSpans first.family)
  | _ => .error .fewSpans

/-- Whether every span is a single value. -/
def isDiscrete (u : SpanUnion) : Bool := u.toList.all (·.isPoint)

/-- The spans in braces. -/
def text (u : SpanUnion) : String :=
  "any\x7b" ++ ", ".intercalate (u.toList.map (·.text)) ++ "\x7d"

end SpanUnion

end ColumnFilter
