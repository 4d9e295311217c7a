/-
Interchange words and the orders of floats.

The order of floats is computed on interchange words: with all bits below the sign flipped when the
sign is set, words are compared as signed integers. The comparison of numbers is about what the
words stand for.

* `Ieee.toNat_word` and `Ieee.toBits_injective`: a value is its interchange word;
* `Ieee.toInt_orderWord`: the flipped word, read as a signed integer, is the place in the total
  order;
* `Ieee.level_lt_iff_units`: places on the number line follow the numbers themselves, with the
  infinities beyond all finite ones;
* `Ieee.lt_iff_of_numbers`, `Ieee.lt_of_negative_nan` and `Ieee.lt_of_positive_nan`: the total order
  is the comparison of numbers, refined by the sign of zero and extended to NaN.
-/
import ColumnFilter.Proofs.Ieee.Comparison

namespace ColumnFilter.Ieee

variable {f : FloatFormat} {x y : Ieee f}

/-! ### Words -/

/-- The interchange word: the sign bit above the bits of the magnitude. -/
def word (x : Ieee f) : BitVec (f.exponentBits + f.fractionBits + 1) :=
  .cons x.negative (.ofNat _ x.magnitude)

/-- The word with all bits below the sign flipped when the sign is set: an arithmetic shift spreads
the sign over a word, and a logical one clears its top bit. -/
def orderWord (x : Ieee f) : BitVec (f.exponentBits + f.fractionBits + 1) :=
  x.word ^^^ (x.word.sshiftRight (f.exponentBits + f.fractionBits) >>> 1)

theorem toNat_magnitude (x : Ieee f) :
    (BitVec.ofNat (f.exponentBits + f.fractionBits) x.magnitude).toNat = x.magnitude :=
  Nat.mod_eq_of_lt x.magnitude_lt

theorem toNat_word (x : Ieee f) : x.word.toNat = x.toBits := by
  rw [word, BitVec.toNat_cons', toNat_magnitude, toBits, FloatFormat.magnitudes, Nat.pow_eq]
  cases x.negative <;> simp [Nat.shiftLeft_eq]

theorem toBits_injective (h : x.toBits = y.toBits) : x = y := by
  obtain ⟨n, m, hm⟩ := x
  obtain ⟨n', m', hm'⟩ := y
  cases n <;> cases n' <;> simp [toBits] at h ⊢ <;> omega

/-- The mask covers the bits below the sign, or nothing. -/
theorem sshiftRight_word (x : Ieee f) :
    x.word.sshiftRight (f.exponentBits + f.fractionBits) >>> 1 =
      .cons false (if x.negative then .allOnes _ else 0) := by
  refine BitVec.eq_of_getLsbD_eq fun i hi => ?_
  rw [BitVec.getLsbD_ushiftRight, BitVec.getLsbD_sshiftRight, BitVec.getLsbD_cons, word,
    BitVec.msb_cons]
  by_cases htop : i = f.exponentBits + f.fractionBits
  · rw [if_pos htop, decide_eq_true (by omega), Bool.not_true, Bool.false_and]
  · rw [if_neg htop, decide_eq_false (by omega), Bool.not_false, Bool.true_and, if_neg (by omega)]
    cases x.negative with
    | false => rw [if_neg Bool.false_ne_true, BitVec.ofNat_eq_ofNat, BitVec.getLsbD_zero]
    | true => rw [if_pos rfl, BitVec.getLsbD_allOnes, decide_eq_true (by omega)]

theorem orderWord_eq (x : Ieee f) :
    x.orderWord = .cons x.negative
      (if x.negative then ~~~.ofNat _ x.magnitude else .ofNat _ x.magnitude) := by
  rw [orderWord, sshiftRight_word, word, BitVec.cons_xor_cons, Bool.xor_false]
  cases x.negative <;> simp

/-- Compared as signed integers, the flipped words stand in the total order. -/
theorem toInt_orderWord (x : Ieee f) : x.orderWord.toInt = x.rank := by
  have hlt := x.magnitude_lt
  rw [FloatFormat.magnitudes, Nat.pow_eq] at hlt
  rw [orderWord_eq, BitVec.toInt_eq_msb_cond, BitVec.msb_cons, BitVec.toNat_cons', rank]
  cases x.negative with
  | false => simp only [if_neg Bool.false_ne_true, toNat_magnitude, Bool.toNat_false,
      Nat.zero_shiftLeft, Nat.zero_add]
  | true =>
    simp only [if_true, BitVec.toNat_not, toNat_magnitude, Bool.toNat_true, Nat.shiftLeft_eq,
      Nat.one_mul, Nat.pow_succ]
    omega

/-! ### Numbers -/

/-- How many least positive values make up a finite value, sign aside. -/
def unitCount (x : Ieee f) : Nat := x.significand * Nat.pow 2 x.scale

theorem units_eq (x : Ieee f) :
    x.units = if x.negative then -(x.unitCount : Int) else x.unitCount := by
  rw [units, unitCount]
  cases x.negative <;> simp

theorem magnitude_eq (x : Ieee f) :
    x.exponent * Nat.pow 2 f.fractionBits + x.fraction = x.magnitude :=
  Nat.div_add_mod' _ _

theorem fraction_lt (x : Ieee f) : x.fraction < Nat.pow 2 f.fractionBits :=
  Nat.mod_lt _ (Nat.two_pow_pos _)

/-- A value is below the least one of the next exponent. -/
theorem unitCount_lt (x : Ieee f) :
    x.unitCount < Nat.pow 2 f.fractionBits * Nat.pow 2 x.exponent := by
  have hfraction := x.fraction_lt
  rw [unitCount, significand, scale]
  by_cases hzero : x.exponent = 0
  · simpa [hzero] using hfraction
  · obtain ⟨e, he⟩ := Nat.exists_eq_succ_of_ne_zero hzero
    rw [if_neg hzero, he, Nat.succ_sub_one, show Nat.pow 2 e.succ = 2 * Nat.pow 2 e from
      Nat.pow_succ', ← Nat.mul_assoc]
    exact Nat.mul_lt_mul_of_pos_right (by omega) (Nat.two_pow_pos _)

theorem le_unitCount (h : x.exponent ≠ 0) :
    Nat.pow 2 f.fractionBits * Nat.pow 2 x.scale ≤ x.unitCount := by
  rw [unitCount, significand, if_neg h]
  exact Nat.mul_le_mul_right _ (Nat.le_add_right _ _)

/-- Greater magnitudes are greater numbers. -/
theorem unitCount_lt_unitCount (h : x.magnitude < y.magnitude) : x.unitCount < y.unitCount := by
  have hx := x.magnitude_eq
  have hy := y.magnitude_eq
  have hexponent : x.exponent ≤ y.exponent := Nat.div_le_div_right (Nat.le_of_lt h)
  -- with one exponent the fractions decide; otherwise whole binades lie in between
  rcases Nat.eq_or_lt_of_le hexponent with heq | hlt
  · have hfraction : x.fraction < y.fraction := by
      rw [← heq] at hy
      omega
    rw [unitCount, unitCount, significand, significand, scale, scale, heq]
    refine Nat.mul_lt_mul_of_pos_right ?_ (Nat.two_pow_pos _)
    split <;> omega
  · have hscale : x.exponent ≤ y.scale := Nat.le_sub_one_of_lt hlt
    calc x.unitCount
      _ < Nat.pow 2 f.fractionBits * Nat.pow 2 x.exponent := x.unitCount_lt
      _ ≤ Nat.pow 2 f.fractionBits * Nat.pow 2 y.scale :=
        Nat.mul_le_mul_left _ (Nat.pow_le_pow_right (by decide) hscale)
      _ ≤ y.unitCount := le_unitCount (by omega)

theorem unitCount_lt_iff : x.unitCount < y.unitCount ↔ x.magnitude < y.magnitude := by
  refine ⟨fun h => ?_, unitCount_lt_unitCount⟩
  rcases Nat.lt_trichotomy x.magnitude y.magnitude with hlt | heq | hgt
  · exact hlt
  · have : x.unitCount = y.unitCount := by
      unfold unitCount significand scale exponent fraction
      rw [heq]
    omega
  · exact absurd (unitCount_lt_unitCount hgt) (Nat.lt_asymm h)

theorem unitCount_zero (negative : Bool) : (zero negative : Ieee f).unitCount = 0 := by
  simp [unitCount, significand, exponent, fraction, zero]

theorem unitCount_pos : 0 < x.unitCount ↔ 0 < x.magnitude := by
  have h := unitCount_lt_iff (x := zero false) (y := x)
  rwa [unitCount_zero] at h

/-- Places on the number line follow the numbers. -/
theorem level_lt_iff_units : x.level < y.level ↔ x.units < y.units := by
  have hxy := unitCount_lt_iff (x := x) (y := y)
  have hyx := unitCount_lt_iff (x := y) (y := x)
  have hx := unitCount_pos (x := x)
  have hy := unitCount_pos (x := y)
  rw [units_eq, units_eq, level, level]
  split <;> split <;> omega

/-! ### The total order -/

/-- Among numbers the total order is their comparison, with `-0` put before `0`. -/
theorem lt_iff_of_numbers (hx : x.isNaN = false) (hy : y.isNaN = false) :
    x < y ↔ lt x y = true ∨ x = zero true ∧ y = zero false := by
  rw [graded.lt_iff]
  constructor
  · intro h
    rcases lt_or_ge x.level y.level with hlevel | hlevel
    · exact .inl ⟨⟨hx, hy⟩, hlevel⟩
    · exact .inr (zeros_of_lt h hlevel)
  · rintro (⟨-, hlevel⟩ | ⟨rfl, rfl⟩)
    · exact lt_of_not_ge fun h => not_lt_of_ge (graded.level_mono h) hlevel
    · exact zero_lt_zero

theorem lt_of_negative_nan (hx : x.isNaN = true) (hneg : x.negative = true)
    (hy : y.isNaN = false) : x < y := by
  simp only [isNaN, decide_eq_true_eq, decide_eq_false_iff_not, Nat.not_lt] at hx hy
  rw [lt_iff_rank, rank, rank, if_pos hneg]
  split <;> omega

theorem lt_of_positive_nan (hx : x.isNaN = true) (hpos : x.negative = false)
    (hy : y.isNaN = false) : y < x := by
  simp only [isNaN, decide_eq_true_eq, decide_eq_false_iff_not, Nat.not_lt] at hx hy
  rw [lt_iff_rank, rank, rank, hpos, if_neg Bool.false_ne_true]
  split <;> omega

end ColumnFilter.Ieee
