/-
Declared types of columns.

A type decides the family in which values of the column are tested, and which scalars may bound
a domain of the column.
-/
import ColumnFilter.Scalar

namespace ColumnFilter

/-- The declared type of a column. -/
inductive SqlType where
  | boolean
  | tinyint
  | smallint
  | integer
  | bigint
  | date
  | timestamp
  | real
  | double
  | decimal (precision scale : Nat)
  | varchar (limit : Option Nat)
  | char (limit : Nat)
  | varbinary
deriving DecidableEq

/-- How the values of a column are tested. -/
inductive TypeClass where
  /-- As truth values. -/
  | boolean
  /-- As 64-bit integers: integers, dates, timestamps and short decimals. -/
  | integer
  /-- As single-precision numbers. -/
  | real
  /-- As double-precision numbers. -/
  | double
  /-- As unscaled 128-bit integers. -/
  | longDecimal
  /-- As byte strings. -/
  | bytes
deriving DecidableEq

namespace SqlType

/-- Digits of a decimal that fits in 64 bits. -/
def maxShortPrecision : Nat := 18

/-- Digits of any decimal. -/
def maxPrecision : Nat := 38

/-- Whether the type is a decimal that fits in 64 bits. -/
def isShortDecimal : SqlType → Bool
  | decimal precision _ => precision ≤ maxShortPrecision
  | _ => false

/-- How values of the type are tested. -/
def typeClass : SqlType → TypeClass
  | boolean => .boolean
  | tinyint | smallint | integer | bigint | date | timestamp => .integer
  | real => .real
  | double => .double
  | decimal precision _ => if precision ≤ maxShortPrecision then .integer else .longDecimal
  | varchar _ | char _ | varbinary => .bytes

/-- Whether an integer lies between two others, both included. -/
def within (lo hi : Int) (n : Bigint) : Bool := lo ≤ n.val && n.val ≤ hi

/-- Whether a scalar may bound a domain of a column of the type. -/
def accepts : SqlType → Scalar → Bool
  | boolean, .boolean _ => true
  | tinyint, .int64 n => within (-128) 127 n
  | smallint, .int64 n => within (-32768) 32767 n
  | integer, .int64 n => within (-2147483648) 2147483647 n
  | bigint, .int64 _ => true
  | date, .int64 _ => true
  | timestamp, .int64 _ => true
  | real, .float32 _ => true
  | double, .float64 _ => true
  | decimal _ _, .int64 _ => true
  | decimal precision _, .decimal128 n => precision > maxShortPrecision || n.toBigint?.isSome
  | varchar _, .utf8 _ => true
  | char _, .utf8 _ => true
  | varbinary, .binary _ => true
  | _, _ => false

/-- The type as it is declared, in lower case. -/
def text : SqlType → String
  | boolean => "boolean"
  | tinyint => "tinyint"
  | smallint => "smallint"
  | integer => "integer"
  | bigint => "bigint"
  | date => "date"
  | timestamp => "timestamp"
  | real => "real"
  | double => "double"
  | decimal precision scale => "decimal(" ++ toString precision ++ ", " ++ toString scale ++ ")"
  | varchar none => "varchar"
  | varchar (some limit) => "varchar(" ++ toString limit ++ ")"
  | char limit => "char(" ++ toString limit ++ ")"
  | varbinary => "varbinary"

end SqlType

end ColumnFilter
