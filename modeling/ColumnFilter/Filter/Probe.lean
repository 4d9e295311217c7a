/-
Testing values with a filter.

A probe is a value of one of the families that filters test. A constant filter answers every
probe; any other answers the probes of its family, and `Filter.test` names the filter and the
test when it has no answer.

`Filter.testScalar` tests a literal or NULL. A filter over integers takes a decimal for its
unscaled value, which must then fit in 64 bits.
-/
import ColumnFilter.Filter.Basic
import ColumnFilter.Integer.Words
import ColumnFilter.Scalar

namespace ColumnFilter

/-! ### Probes -/

/-- A value to be tested. -/
inductive Probe where
  | boolean (b : Bool)
  | integer (n : Bigint)
  | double (x : Double)
  | real (x : Single)
  | decimal (n : Hugeint)
  | bytes (b : Bytes)
deriving DecidableEq

/-- The tests that a filter may support. -/
inductive TestKind where
  | boolean
  | integer
  | double
  | real
  | decimal
  | bytes
deriving DecidableEq

/-- Name of a test, in errors. -/
def TestKind.name : TestKind → String
  | boolean => "test_boolean"
  | integer => "test_integer"
  | double => "test_double"
  | real => "test_float"
  | decimal => "test_decimal128"
  | bytes => "test_bytes"

/-- The test that a value asks for. -/
def Probe.kind : Probe → TestKind
  | boolean _ => .boolean
  | integer _ => .integer
  | double _ => .double
  | real _ => .real
  | decimal _ => .decimal
  | bytes _ => .bytes

/-! ### Errors -/

/-- A decimal column of 64 bits. -/
inductive ShortDecimal where
  /-- A column known only by the filter over it. -/
  | undeclared
  | declared (precision : Nat) (scale : Int)
deriving DecidableEq

/-- Name of the column's type. -/
def ShortDecimal.name : ShortDecimal → String
  | undeclared => "short decimal"
  | declared precision scale =>
    "Decimal128(" ++ toString precision ++ ", " ++ toString scale ++ ")"

/-- Reasons why a value was not tested. -/
inductive TestError where
  /-- The filter has no such test. -/
  | unsupported (filter : FilterKind) (test : TestKind)
  /-- The value has more than the 64 bits of its column. -/
  | outOfRange (value : Hugeint) (column : ShortDecimal)
deriving DecidableEq

/-- The reason, with the names of what was at fault. -/
def TestError.message : TestError → String
  | unsupported filter test => filter.name ++ " filter does not support " ++ test.name
  | outOfRange value column =>
    "value " ++ value.text ++ " does not fit a " ++ column.name ++ " column"

/-! ### Tests -/

namespace Filter

/-- What a filter says about a value, when it ignores values or the value is of its family. -/
def test? (f : Filter) (v : Probe) : Option Bool :=
  match f.constant? with
  | some outcome => some outcome
  | none =>
    match f, v with
    | boolean b _, .boolean v => some (b == v)
    | integerRange r, .integer v => some (r.contains v)
    | integerUnion u, .integer v => some (u.contains v)
    | integerSet s, .integer v => some (s.contains v)
    | span (.double s), .double v => some (s.contains v)
    | span (.real s), .real v => some (s.contains v)
    | span (.decimal s), .decimal v => some (s.contains v)
    | span (.bytes s), .bytes v => some (s.containsBytes v)
    | spanUnion (.double u), .double v => some (u.contains v)
    | spanUnion (.real u), .real v => some (u.contains v)
    | spanUnion (.decimal u), .decimal v => some (u.contains v)
    | spanUnion (.bytes u), .bytes v => some (u.searchBy Span.containsBytes v)
    | bytesSet s, .bytes v => some (s.contains v)
    | _, _ => none

/-- A constant filter answers every probe. -/
theorem test?_of_constant? {f : Filter} {b : Bool} (h : f.constant? = some b) (v : Probe) :
    f.test? v = some b := by
  unfold test?
  rw [h]

@[simp] theorem test?_nothing (n : Bool) (v : Probe) : (nothing n).test? v = some false :=
  test?_of_constant? (constant?_nothing n) v

@[simp] theorem test?_everything (n : Bool) (v : Probe) : (everything n).test? v = some true :=
  test?_of_constant? (constant?_everything n) v

@[simp] theorem test?_boolean (b n v : Bool) : (boolean b n).test? (.boolean v) = some (b == v) :=
  rfl

/-- Whether NULL passes. -/
def testNull (f : Filter) : Bool := f.nullAllowed

/-- Whether a value passes. -/
def test (f : Filter) (v : Probe) : Except TestError Bool :=
  match f.test? v with
  | some passes => .ok passes
  | none => .error (.unsupported f.kind v.kind)

/-- Whether a wide decimal passes that is given as two words. -/
def testWords (f : Filter) (high : Bigint) (low : Word) : Except TestError Bool :=
  f.test (.decimal (.ofWords high low))

/-- Whether an unscaled decimal of a short column passes. -/
def testShortDecimal (f : Filter) (column : ShortDecimal) (v : Hugeint) :
    Except TestError Bool :=
  match v.toBigint? with
  | some n => f.test (.integer n)
  | none => .error (.outOfRange v column)

/-- Whether a literal passes. -/
def testValue (f : Filter) : Scalar → Except TestError Bool
  | .boolean b => f.test (.boolean b)
  | .int64 n => f.test (.integer n)
  | .float32 x => f.test (.real x)
  | .float64 x => f.test (.double x)
  | .decimal128 n =>
    if f.isInteger then f.testShortDecimal .undeclared n else f.test (.decimal n)
  | .utf8 s => f.test (.bytes (.ofString s))
  | .binary b => f.test (.bytes b)

/-- Whether a literal or NULL passes. -/
def testScalar (f : Filter) : Option Scalar → Except TestError Bool
  | none => .ok f.testNull
  | some v => f.testValue v

end Filter

end ColumnFilter
