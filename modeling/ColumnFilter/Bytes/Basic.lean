/-
Byte strings under lexicographic order.

A byte string is compared byte by byte, unsigned, and a proper initial part comes before the
whole, as lists are. The order is a lawful total order. The bytes of a text are those of its UTF-8
encoding, and different texts have different bytes (`Bytes.ofString_injective`).
-/

namespace ColumnFilter

/-- A string of bytes. -/
structure Bytes where
  toList : List UInt8
deriving DecidableEq

namespace Bytes

@[ext] theorem ext {a b : Bytes} (h : a.toList = b.toList) : a = b := by
  cases a; cases b; cases h; rfl

/-- The empty byte string. -/
def empty : Bytes := ⟨[]⟩

/-- Number of bytes. -/
def size (b : Bytes) : Nat := b.toList.length

/-- The UTF-8 encoding of a text. -/
def ofString (s : String) : Bytes := ⟨s.toByteArray.data.toList⟩

theorem ofString_injective {s t : String} (h : ofString s = ofString t) : s = t :=
  String.toByteArray_inj.1 <|
    ByteArray.ext (Array.toList_inj.1 (congrArg Bytes.toList h))

instance : Hashable Bytes := ⟨fun b => b.toList.foldl (fun h x => mixHash h (hash x)) 7⟩

/-! ### Order -/

instance : Ord Bytes := ⟨compareOn toList⟩

instance : Std.TransOrd Bytes := inferInstanceAs (Std.TransCmp (compareOn toList))

instance : Std.LawfulEqOrd Bytes where
  compare_self := Std.ReflOrd.compare_self (α := List UInt8)
  eq_of_compare h := Bytes.ext (Std.LawfulEqOrd.eq_of_compare (α := List UInt8) h)

/-! ### Hexadecimal notation -/

/-- Two lowercase hexadecimal digits for each byte. -/
def hex (b : Bytes) : String :=
  String.ofList <| b.toList.flatMap fun x => [(x.toNat / 16).digitChar, (x.toNat % 16).digitChar]

end Bytes

end ColumnFilter
