/-
Binary floating-point values, kept bit for bit.

A value of a format is its sign and its magnitude: the exponent and fraction fields read as one
natural number. NaN payloads and the sign of zero are therefore part of a value.

* `Ieee.ofBits` and `Ieee.toBits` read and write the interchange word.
* The order of the type is the total order: the magnitude, reversed below zero, with `-0` below
  `0` and every NaN beyond the infinity of its sign.
* `Ieee.lt` and `Ieee.le` are the comparisons of arithmetic: no NaN compares, and the two zeros
  are equal.
* `Ieee.units` is the number itself, counted in the least positive value of the format.
-/

namespace ColumnFilter

/-! ### Formats -/

/-- Widths of the exponent and fraction fields of a binary format. -/
structure FloatFormat where
  exponentBits : Nat
  fractionBits : Nat
deriving DecidableEq

namespace FloatFormat

/-- Single precision. -/
def binary32 : FloatFormat := ⟨8, 23⟩

/-- Double precision. -/
def binary64 : FloatFormat := ⟨11, 52⟩

/-- Number of magnitudes, the weight of the sign bit. -/
def magnitudes (f : FloatFormat) : Nat := Nat.pow 2 (f.exponentBits + f.fractionBits)

/-- Magnitude of the infinities: all ones in the exponent field, no fraction. -/
def infinity (f : FloatFormat) : Nat :=
  (Nat.pow 2 f.exponentBits - 1) * Nat.pow 2 f.fractionBits

/-- The exponent `e` for which `2 ^ (-e)` is the least positive value. -/
def leastExponent (f : FloatFormat) : Nat :=
  Nat.pow 2 (f.exponentBits - 1) - 2 + f.fractionBits

theorem magnitudes_pos (f : FloatFormat) : 0 < f.magnitudes := Nat.two_pow_pos _

theorem infinity_lt (f : FloatFormat) : f.infinity < f.magnitudes := by
  unfold infinity magnitudes
  rw [Nat.pow_eq, Nat.pow_eq, Nat.pow_eq, Nat.pow_add]
  exact Nat.mul_lt_mul_of_pos_right (Nat.sub_lt (Nat.two_pow_pos _) Nat.one_pos) (Nat.two_pow_pos _)

end FloatFormat

/-! ### Values -/

/-- A value of a binary format: its sign and its magnitude. -/
structure Ieee (f : FloatFormat) where
  negative : Bool
  magnitude : Nat
  magnitude_lt : magnitude < f.magnitudes
deriving DecidableEq

/-- Values of 32 bits. -/
abbrev Single : Type := Ieee .binary32

/-- Values of 64 bits. -/
abbrev Double : Type := Ieee .binary64

namespace Ieee

variable {f : FloatFormat}

/-- The value with a given interchange word; higher bits are dropped. -/
def ofBits (bits : Nat) : Ieee f :=
  ⟨bits / f.magnitudes % 2 == 1, bits % f.magnitudes, Nat.mod_lt _ f.magnitudes_pos⟩

/-- The interchange word: the sign bit above the magnitude. -/
def toBits (x : Ieee f) : Nat := (if x.negative then f.magnitudes else 0) + x.magnitude

/-- Whether the value is not a number. -/
def isNaN (x : Ieee f) : Bool := f.infinity < x.magnitude

/-- Whether the value is an infinity. -/
def isInfinite (x : Ieee f) : Bool := x.magnitude == f.infinity

/-- Whether the value is a zero of either sign. -/
def isZero (x : Ieee f) : Bool := x.magnitude == 0

/-- The greatest finite value. -/
def highest : Ieee f :=
  ⟨false, f.infinity - 1, Nat.lt_of_le_of_lt (Nat.sub_le ..) f.infinity_lt⟩

/-- The least finite value. -/
def lowest : Ieee f :=
  ⟨true, f.infinity - 1, Nat.lt_of_le_of_lt (Nat.sub_le ..) f.infinity_lt⟩

/-! ### Total order -/

/-- Place in the total order: negative values below zero, from `-1` for `-0` downwards. -/
def rank (x : Ieee f) : Int := if x.negative then -1 - x.magnitude else x.magnitude

theorem rank_injective {x y : Ieee f} (h : x.rank = y.rank) : x = y := by
  obtain ⟨n, m, _⟩ := x
  obtain ⟨n', m', _⟩ := y
  cases n <;> cases n' <;> simp [rank] at h ⊢ <;> omega

instance : Ord (Ieee f) := ⟨compareOn rank⟩

instance : Std.TransOrd (Ieee f) := inferInstanceAs (Std.TransCmp (compareOn rank))

instance : Std.LawfulEqOrd (Ieee f) where
  compare_self := Int.compare_eq_eq.2 rfl
  eq_of_compare h := rank_injective (Int.compare_eq_eq.1 h)

/-! ### Comparison of numbers -/

/-- Place on the number line, where both zeros stand at `0`. -/
def level (x : Ieee f) : Int := if x.negative then -x.magnitude else x.magnitude

/-- `x < y` as numbers; false when either is not a number. -/
def lt (x y : Ieee f) : Bool := !x.isNaN && !y.isNaN && decide (x.level < y.level)

/-- `x ≤ y` as numbers; false when either is not a number. -/
def le (x y : Ieee f) : Bool := !x.isNaN && !y.isNaN && decide (x.level ≤ y.level)

/-! ### The number itself -/

/-- The exponent field. -/
def exponent (x : Ieee f) : Nat := x.magnitude / Nat.pow 2 f.fractionBits

/-- The fraction field. -/
def fraction (x : Ieee f) : Nat := x.magnitude % Nat.pow 2 f.fractionBits

/-- The significand of a finite value, its leading one included. -/
def significand (x : Ieee f) : Nat :=
  if x.exponent = 0 then x.fraction else Nat.pow 2 f.fractionBits + x.fraction

/-- The power of two that scales the significand, in least positive values. -/
def scale (x : Ieee f) : Nat := x.exponent - 1

/-- A finite value as a multiple of the least positive one. -/
def units (x : Ieee f) : Int :=
  (if x.negative then -1 else 1) * (x.significand * Nat.pow 2 x.scale : Nat)

end Ieee

end ColumnFilter
