/-
Literal values and their order.

A scalar is a value of one of seven kinds. Two scalars of one kind compare by value: floats in
their total order, texts by their bytes. Scalars of different kinds compare by kind alone, so
that `Scalar.compareWithin` says when a comparison is more than that.
-/
import ColumnFilter.Integer.Bounded
import ColumnFilter.Ieee.Text
import ColumnFilter.Bytes.Basic

namespace ColumnFilter

/-- A literal value. Dates, timestamps and unscaled decimals of up to eighteen digits are `int64`
values too. -/
inductive Scalar where
  | boolean (b : Bool)
  | int64 (n : Bigint)
  | float32 (x : Single)
  | float64 (x : Double)
  | decimal128 (n : Hugeint)
  | utf8 (s : String)
  | binary (b : Bytes)
deriving DecidableEq

/-- The kinds of scalars. -/
inductive ScalarKind where
  | boolean | int64 | float32 | float64 | decimal128 | utf8 | binary
deriving DecidableEq

namespace ScalarKind

/-- Name of a kind. -/
def name : ScalarKind → String
  | boolean => "boolean"
  | int64 => "int64"
  | float32 => "float32"
  | float64 => "float64"
  | decimal128 => "decimal128"
  | utf8 => "utf8"
  | binary => "binary"

/-- Place of a kind among the kinds. -/
def rank : ScalarKind → Int
  | boolean => 0
  | int64 => 1
  | float32 => 2
  | float64 => 3
  | decimal128 => 4
  | utf8 => 5
  | binary => 6

instance : Ord ScalarKind := ⟨compareOn rank⟩

end ScalarKind

namespace Scalar

/-- The kind of a scalar. -/
def kind : Scalar → ScalarKind
  | boolean _ => .boolean
  | int64 _ => .int64
  | float32 _ => .float32
  | float64 _ => .float64
  | decimal128 _ => .decimal128
  | utf8 _ => .utf8
  | binary _ => .binary

/-! ### Payloads -/

/-- The truth value, of a boolean. -/
def boolean? : Scalar → Option Bool
  | boolean b => some b
  | _ => none

/-- The integer, of an `int64`. -/
def int64? : Scalar → Option Bigint
  | int64 n => some n
  | _ => none

/-- The number, of a `float32`. -/
def float32? : Scalar → Option Single
  | float32 x => some x
  | _ => none

/-- The number, of a `float64`. -/
def float64? : Scalar → Option Double
  | float64 x => some x
  | _ => none

/-- The unscaled integer, of a `decimal128`. -/
def decimal128? : Scalar → Option Hugeint
  | decimal128 n => some n
  | _ => none

/-- The bytes, of a text or a byte string. -/
def bytes? : Scalar → Option Bytes
  | utf8 s => some (.ofString s)
  | binary b => some b
  | _ => none

/-! ### Order -/

/-- Comparison by value, of two scalars of one kind. -/
def compareWithin : Scalar → Scalar → Option Ordering
  | boolean a, boolean b => some (compare a b)
  | int64 a, int64 b => some (compare a b)
  | float32 a, float32 b => some (compare a b)
  | float64 a, float64 b => some (compare a b)
  | decimal128 a, decimal128 b => some (compare a b)
  | utf8 a, utf8 b => some (compare (Bytes.ofString a) (Bytes.ofString b))
  | binary a, binary b => some (compare a b)
  | _, _ => none

instance : Ord Scalar := ⟨fun a b => (compareWithin a b).getD (compare a.kind b.kind)⟩

/-- Scalars in ascending order; equal ones keep their places. -/
def sort (scalars : List Scalar) : List Scalar :=
  scalars.mergeSort fun a b => compare a b != .gt

/-! ### Text -/

/-- A scalar as a literal: texts between quotes, byte strings in hexadecimal. -/
def text : Scalar → String
  | boolean b => if b then "true" else "false"
  | int64 n => n.text
  | float32 x => x.text
  | float64 x => x.text
  | decimal128 n => n.text
  | utf8 s => "'" ++ s ++ "'"
  | binary b => "X'" ++ b.hex ++ "'"

end Scalar

end ColumnFilter
