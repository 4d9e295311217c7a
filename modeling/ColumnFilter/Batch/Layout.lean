/-
Layouts of column batches.

A layout says what the slots of a batch hold. The layouts that filters read have a type of cells;
the others (`OtherLayout`) are known by name only, and their slots hold NULL alone.
-/
import ColumnFilter.Integer.Bounded
import ColumnFilter.Ieee.Basic
import ColumnFilter.Bytes.Basic

namespace ColumnFilter

/-! ### Layouts that filters do not read -/

/-- Units of time. -/
inductive TimeUnit where
  | second
  | millisecond
  | microsecond
  | nanosecond
deriving DecidableEq

/-- Name of a unit. -/
def TimeUnit.name : TimeUnit → String
  | second => "Second"
  | millisecond => "Millisecond"
  | microsecond => "Microsecond"
  | nanosecond => "Nanosecond"

/-- A part of a compound layout, its own layout given by name. -/
structure LayoutField where
  name : String
  layout : String
  nullable : Bool
deriving DecidableEq

/-- A part with its properties. -/
def LayoutField.text (field : LayoutField) : String :=
  "Field \x7b name: \"" ++ field.name ++ "\", data_type: " ++ field.layout ++ ", nullable: "
    ++ (if field.nullable then "true" else "false")
    ++ ", dict_id: 0, dict_is_ordered: false, metadata: \x7b\x7d \x7d"

/-- A layout that filters do not read. -/
inductive OtherLayout where
  | null
  | unsigned (bits : Nat)
  | float16
  | time32 (unit : TimeUnit)
  | time64 (unit : TimeUnit)
  | duration (unit : TimeUnit)
  | yearMonthInterval
  | utf8View
  | binaryView
  | fixedSizeBinary (size : Nat)
  | decimal256 (precision : Nat) (scale : Int)
  | dictionary (keys values : String)
  | list (item : LayoutField)
  | record (fields : List LayoutField)
deriving DecidableEq

/-- Name of a layout, with its parameters. -/
def OtherLayout.name : OtherLayout → String
  | null => "Null"
  | unsigned bits => "UInt" ++ toString bits
  | float16 => "Float16"
  | time32 unit => "Time32(" ++ unit.name ++ ")"
  | time64 unit => "Time64(" ++ unit.name ++ ")"
  | duration unit => "Duration(" ++ unit.name ++ ")"
  | yearMonthInterval => "Interval(YearMonth)"
  | utf8View => "Utf8View"
  | binaryView => "BinaryView"
  | fixedSizeBinary size => "FixedSizeBinary(" ++ toString size ++ ")"
  | decimal256 precision scale =>
    "Decimal256(" ++ toString precision ++ ", " ++ toString scale ++ ")"
  | dictionary keys values => "Dictionary(" ++ keys ++ ", " ++ values ++ ")"
  | list item => "List(" ++ item.text ++ ")"
  | record fields => "Struct([" ++ ", ".intercalate (fields.map (·.text)) ++ "])"

/-! ### Layouts -/

/-- What the slots of a batch hold. -/
inductive Layout where
  | boolean
  | int8
  | int16
  | int32
  | int64
  | date32
  | date64
  | timestamp (unit : TimeUnit) (zone : Option String)
  | float32
  | float64
  | decimal128 (precision : Nat) (scale : Int)
  | utf8
  | largeUtf8
  | binary
  | largeBinary
  | other (layout : OtherLayout)
deriving DecidableEq

/-- Values of the slots that are not NULL. -/
abbrev Layout.Cell : Layout → Type
  | boolean => Bool
  | int8 => IntIn (-128) 127
  | int16 => IntIn (-32768) 32767
  | int32 => IntIn (-2147483648) 2147483647
  | int64 => Bigint
  | date32 => IntIn (-2147483648) 2147483647
  | date64 => Bigint
  | timestamp _ _ => Bigint
  | float32 => Single
  | float64 => Double
  | decimal128 _ _ => Hugeint
  | utf8 => String
  | largeUtf8 => String
  | binary => Bytes
  | largeBinary => Bytes
  | other _ => Empty

end ColumnFilter
