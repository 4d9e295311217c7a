/-
Byte strings read as text.

Bytes that are well-formed UTF-8 read as their characters. Where they are not, each longest
piece that could begin a character, and each byte that could not, reads as one U+FFFD.
-/
import ColumnFilter.Bytes.Basic

namespace ColumnFilter.Bytes

/-- What a first byte announces: the bits it contributes, the number of bytes to follow, and the
limits of the next of them. -/
structure Lead where
  bits : Nat
  rest : Nat
  low : Nat := 0x80
  high : Nat := 0xBF

/-- Reads a first byte. The limits shut out overlong forms, surrogates and what lies beyond
U+10FFFF. -/
def lead? (b : Nat) : Option Lead :=
  if b < 0x80 then some { bits := b, rest := 0 }
  else if b < 0xC2 then none
  else if b < 0xE0 then some { bits := b - 0xC0, rest := 1 }
  else if b = 0xE0 then some { bits := 0, rest := 2, low := 0xA0 }
  else if b = 0xED then some { bits := 0xD, rest := 2, high := 0x9F }
  else if b < 0xF0 then some { bits := b - 0xE0, rest := 2 }
  else if b = 0xF0 then some { bits := 0, rest := 3, low := 0x90 }
  else if b < 0xF4 then some { bits := b - 0xF0, rest := 3 }
  else if b = 0xF4 then some { bits := 4, rest := 3, high := 0x8F }
  else none

/-- Reads the bytes that a first byte announced. The result is the code point, unless a byte is
missing or outside its limits, and the bytes not read. -/
def follow (bits : Nat) (low high : Nat) : Nat → List UInt8 → Option Nat × List UInt8
  | 0, bytes => (some bits, bytes)
  | _ + 1, [] => (none, [])
  | rest + 1, b :: bytes =>
    -- only the first of them has limits of its own
    if low ≤ b.toNat ∧ b.toNat ≤ high then follow (bits * 64 + b.toNat % 64) 0x80 0xBF rest bytes
    else (none, b :: bytes)

theorem length_follow_le (bits low high rest : Nat) (bytes : List UInt8) :
    (follow bits low high rest bytes).2.length ≤ bytes.length := by
  fun_induction follow bits low high rest bytes with
  | case1 => exact Nat.le_refl _
  | case2 => exact Nat.le_refl _
  | case3 _ _ _ _ _ _ _ ih => exact Nat.le_succ_of_le ih
  | case4 => exact Nat.le_refl _

/-- The characters that a byte list reads as. -/
def characters : List UInt8 → List Char
  | [] => []
  | b :: bytes =>
    match lead? b.toNat with
    | none => '\uFFFD' :: characters bytes
    | some lead =>
      let next := follow lead.bits lead.low lead.high lead.rest bytes
      next.1.elim '\uFFFD' Char.ofNat :: characters next.2
termination_by bytes => bytes.length
decreasing_by
  · exact Nat.lt_succ_self _
  · exact Nat.lt_succ_of_le (length_follow_le ..)

/-- The text that a byte string reads as. -/
def text (b : Bytes) : String := String.ofList (characters b.toList)

end ColumnFilter.Bytes
