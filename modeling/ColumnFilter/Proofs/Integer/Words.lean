/-
The two words of a wide integer.

* `Hugeint.words_exact`: splitting into words and joining them undo each other, the order of
  integers is that of their words, and a span of wide decimals tests two words by holding them
  against the words of its limits.

Words are compared as pairs: the signed high words first, and the unsigned low ones where these are
equal. Splitting is then an isomorphism of orders (`Hugeint.wordsIso`), and what is decided by
comparing integers can be decided on their words (`Span.contains_ofWords`).

Words are defined by division. They are also what shifts and truncations make of the integer in
two's complement, and the integer is the disjunction of its words (`Hugeint.toBits_high`,
`Hugeint.toBits_low`, `Hugeint.toBits_ofWords`).
-/
import ColumnFilter.Filter.Probe
import ColumnFilter.Proofs.Order.Linear
import Mathlib.Data.Prod.Lex
import Mathlib.Order.Hom.Basic

namespace ColumnFilter

/-! ### Two's complement -/

/-- A signed integer in 64 bits. -/
def Bigint.toBits (a : Bigint) : BitVec 64 := .ofInt 64 a.val

/-- An unsigned integer in 64 bits. -/
def Word.toBits (a : Word) : BitVec 64 := .ofInt 64 a.val

/-- A signed integer in 128 bits. -/
def Hugeint.toBits (a : Hugeint) : BitVec 128 := .ofInt 128 a.val

theorem Bigint.toInt_toBits (a : Bigint) : a.toBits.toInt = a.val := by
  have := a.lo_le
  have := a.le_hi
  rw [toBits, BitVec.toInt_ofInt, Int.bmod_eq_of_le (by omega) (by omega)]

theorem Word.toNat_toBits (a : Word) : (a.toBits.toNat : Int) = a.val := by
  have := a.lo_le
  have := a.le_hi
  rw [toBits, BitVec.toNat_ofInt]
  omega

theorem Hugeint.toInt_toBits (a : Hugeint) : a.toBits.toInt = a.val := by
  have := a.lo_le
  have := a.le_hi
  rw [toBits, BitVec.toInt_ofInt, Int.bmod_eq_of_le (by omega) (by omega)]

namespace Hugeint

/-- What truncation leaves of an integer is the integer in fewer bits. -/
theorem setWidth_ofInt (n : Int) : (BitVec.ofInt 128 n).setWidth 64 = .ofInt 64 n := by
  rw [← BitVec.toNat_inj, BitVec.toNat_setWidth, BitVec.toNat_ofInt, BitVec.toNat_ofInt]
  omega

/-- A shift that keeps the sign divides, rounding down. -/
theorem sshiftRight_toBits (a : Hugeint) : a.toBits.sshiftRight 64 = .ofInt 128 a.high.val := by
  have := a.high.lo_le
  have := a.high.le_hi
  rw [← BitVec.toInt_inj, BitVec.toInt_sshiftRight, toInt_toBits, Int.shiftRight_eq_div_pow,
    BitVec.toInt_ofInt, Int.bmod_eq_of_le (by omega) (by omega)]
  rfl

theorem toBits_high (a : Hugeint) : a.high.toBits = (a.toBits.sshiftRight 64).setWidth 64 := by
  rw [sshiftRight_toBits, setWidth_ofInt]
  rfl

theorem toBits_low (a : Hugeint) : a.low.toBits = a.toBits.setWidth 64 := by
  rw [toBits, setWidth_ofInt, Word.toBits, ← BitVec.toNat_inj, BitVec.toNat_ofInt,
    BitVec.toNat_ofInt]
  show (a.val % 18446744073709551616 % _).toNat = _
  omega

/-- The bits of the two operands do not meet, so that their disjunction puts one before the
other. -/
theorem signExtend_shiftLeft_or (x y : BitVec 64) :
    x.signExtend 128 <<< 64 ||| y.setWidth 128 = x ++ y := by
  refine BitVec.eq_of_getLsbD_eq fun i hi => ?_
  rw [BitVec.getLsbD_or, BitVec.getLsbD_shiftLeft, BitVec.getLsbD_signExtend,
    BitVec.getLsbD_setWidth, BitVec.getLsbD_append]
  by_cases hlow : i < 64
  · simp [hlow, hi]
  · have hy : y.getLsbD i = false := BitVec.getLsbD_of_ge y i (not_lt.mp hlow)
    have hx : i - 64 < 64 := by omega
    have hx' : i - 64 < 128 := by omega
    simp [hlow, hi, hy, hx, hx']

theorem toBits_ofWords (high : Bigint) (low : Word) :
    (ofWords high low).toBits = high.toBits.signExtend 128 <<< 64 ||| low.toBits.setWidth 128 := by
  rw [signExtend_shiftLeft_or, ← BitVec.toInt_inj, toInt_toBits, BitVec.toInt_append,
    Bigint.toInt_toBits, Word.toNat_toBits, val_ofWords, if_neg (by decide)]
  omega

/-! ### Order of words -/

/-- The words as a pair, in which the high one decides first. -/
def words (a : Hugeint) : Bigint ×ₗ Word := toLex (a.high, a.low)

theorem words_le_words {a b : Hugeint} : a.words ≤ b.words ↔ a ≤ b := by
  rw [words, words, Prod.Lex.toLex_le_toLex, IntIn.lt_iff, IntIn.le_iff, IntIn.le_iff,
    IntIn.ext_iff]
  show a.val / 18446744073709551616 < b.val / 18446744073709551616 ∨
    a.val / 18446744073709551616 = b.val / 18446744073709551616 ∧
      a.val % 18446744073709551616 ≤ b.val % 18446744073709551616 ↔ _
  omega

/-- **Wide integers are the pairs of a high and a low word**, in their order. -/
def wordsIso : Hugeint ≃o Bigint ×ₗ Word where
  toFun := words
  invFun w := ofWords (ofLex w).1 (ofLex w).2
  left_inv := ofWords_high_low
  right_inv w := by simp [words]
  map_rel_iff' := words_le_words

theorem words_lt_words {a b : Hugeint} : a.words < b.words ↔ a < b :=
  wordsIso.lt_iff_lt

end Hugeint

/-! ### Tests on words -/

/-- Whether two words are on the inner side of a lower limit, by the words of the limit. -/
def Limit.admitsWordsAbove (lower : Limit Hugeint) (w : Bigint ×ₗ Word) : Bool :=
  lower.unbounded || if lower.exclusive then lower.value.words < w else lower.value.words ≤ w

/-- Whether two words are on the inner side of an upper limit, by the words of the limit. -/
def Limit.admitsWordsBelow (upper : Limit Hugeint) (w : Bigint ×ₗ Word) : Bool :=
  upper.unbounded || if upper.exclusive then w < upper.value.words else w ≤ upper.value.words

/-- A span holds the integer of two words when it holds them by the words of its limits. -/
theorem Span.contains_ofWords (s : Span Hugeint) (high : Bigint) (low : Word) :
    s.contains (.ofWords high low) =
      (s.lower.admitsWordsAbove (toLex (high, low)) &&
        s.upper.admitsWordsBelow (toLex (high, low))) := by
  have hwords : toLex (high, low) = (Hugeint.ofWords high low).words := by simp [Hugeint.words]
  rw [hwords, contains, Limit.admitsAbove, Limit.admitsBelow, Limit.admitsWordsAbove,
    Limit.admitsWordsBelow]
  simp only [Hugeint.words_lt_words, Hugeint.words_le_words, SpanValue.lt, SpanValue.le,
    IntIn.lt_iff, IntIn.le_iff]

/-- **Splitting a wide integer into its words loses nothing and keeps the order.** The words are
those of two's complement, and a filter over a span tests two words by holding them against the
words of its limits. -/
theorem Hugeint.words_exact :
    (∀ a : Hugeint, ofWords a.high a.low = a) ∧
    (∀ high low, (ofWords high low).high = high ∧ (ofWords high low).low = low) ∧
    (∀ a b : Hugeint, a.val < b.val ↔
      a.high.val < b.high.val ∨ a.high.val = b.high.val ∧ a.low.val < b.low.val) ∧
    (∀ a : Hugeint, a.high.toBits = (a.toBits.sshiftRight 64).setWidth 64 ∧
      a.low.toBits = a.toBits.setWidth 64) ∧
    (∀ high low, (ofWords high low).toBits =
      high.toBits.signExtend 128 <<< 64 ||| low.toBits.setWidth 128) ∧
    ∀ (s : Span Hugeint) (high : Bigint) (low : Word),
      (Filter.span (.decimal s)).testWords high low =
        .ok (s.lower.admitsWordsAbove (toLex (high, low)) &&
          s.upper.admitsWordsBelow (toLex (high, low))) := by
  refine ⟨ofWords_high_low, fun high low => ⟨high_ofWords high low, low_ofWords high low⟩, ?_,
    fun a => ⟨toBits_high a, toBits_low a⟩, toBits_ofWords, ?_⟩
  · -- the order
    intro a b
    rw [← IntIn.lt_iff, ← words_lt_words, words, words, Prod.Lex.toLex_lt_toLex, IntIn.lt_iff,
      IntIn.lt_iff, IntIn.ext_iff]
  · -- the test
    intro s high low
    rw [← s.contains_ofWords]
    rfl

/-- The integer before zero has the greatest low word below the high word `-1`. -/
example : (Hugeint.high ⟨-1, by decide, by decide⟩).val = -1 ∧
    (Hugeint.low ⟨-1, by decide, by decide⟩).val = 18446744073709551615 := by decide

end ColumnFilter
