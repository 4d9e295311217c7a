/-
Wide integers as two words.

A 128-bit integer is written as a signed high word and an unsigned low word of 64 bits each.
`Hugeint.ofWords` undoes `Hugeint.high` and `Hugeint.low`, and they undo it.
-/
import ColumnFilter.Integer.Bounded

namespace ColumnFilter.Hugeint

/-- The high word: the quotient by `2 ^ 64`, rounded down. -/
def high (a : Hugeint) : Bigint :=
  ⟨a.val / 18446744073709551616, by have := a.lo_le; omega, by have := a.le_hi; omega⟩

/-- The low word: what the high word leaves. -/
def low (a : Hugeint) : Word :=
  ⟨a.val % 18446744073709551616, by omega, by omega⟩

/-- The integer with the given high and low words. -/
def ofWords (high : Bigint) (low : Word) : Hugeint :=
  ⟨high.val * 18446744073709551616 + low.val,
    by have := high.lo_le; have := low.lo_le; omega,
    by have := high.le_hi; have := low.le_hi; omega⟩

@[simp] theorem val_ofWords (high : Bigint) (low : Word) :
    (ofWords high low).val = high.val * 18446744073709551616 + low.val := rfl

@[simp] theorem ofWords_high_low (a : Hugeint) : ofWords a.high a.low = a := by
  refine IntIn.ext ?_
  show a.val / 18446744073709551616 * 18446744073709551616 + a.val % 18446744073709551616 = a.val
  omega

@[simp] theorem high_ofWords (high : Bigint) (low : Word) : (ofWords high low).high = high := by
  have := low.lo_le
  have := low.le_hi
  refine IntIn.ext ?_
  show (high.val * 18446744073709551616 + low.val) / 18446744073709551616 = high.val
  omega

@[simp] theorem low_ofWords (high : Bigint) (low : Word) : (ofWords high low).low = low := by
  have := low.lo_le
  have := low.le_hi
  refine IntIn.ext ?_
  show (high.val * 18446744073709551616 + low.val) % 18446744073709551616 = low.val
  omega

end ColumnFilter.Hugeint
