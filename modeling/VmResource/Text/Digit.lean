/-
# Decimal digits

The digits of every script, ten of them each, in the order of their values:
the characters of the category Nd by the Unicode Character Database, version
14. A number may be written with the digits of any script.

Key definitions: `Text.digitValue?`, `Text.plain?`.
Key theorems: `Text.toNat_of_isDigit`, `Text.zeros_apart`,
`Text.mapM_plain?_eq_self`.
-/

namespace VmResource
namespace Text

/-- The code points of the ASCII digits. -/
theorem toNat_of_isDigit {c : Char} (h : c.isDigit = true) : 48 ≤ c.toNat ∧ c.toNat ≤ 57 := by
  simp only [Char.isDigit, Bool.and_eq_true, decide_eq_true_eq, ge_iff_le,
    UInt32.le_iff_toNat_le] at h
  exact h

/-- The zero of each script, in ascending order. -/
def zeros : List Nat :=
  [0x30, 0x660, 0x6f0, 0x7c0, 0x966, 0x9e6, 0xa66, 0xae6, 0xb66, 0xbe6, 0xc66, 0xce6, 0xd66,
   0xde6, 0xe50, 0xed0, 0xf20, 0x1040, 0x1090, 0x17e0, 0x1810, 0x1946, 0x19d0, 0x1a80, 0x1a90,
   0x1b50, 0x1bb0, 0x1c40, 0x1c50, 0xa620, 0xa8d0, 0xa900, 0xa9d0, 0xa9f0, 0xaa50, 0xabf0,
   0xff10, 0x104a0, 0x10d30, 0x11066, 0x110f0, 0x11136, 0x111d0, 0x112f0, 0x11450, 0x114d0,
   0x11650, 0x116c0, 0x11730, 0x118e0, 0x11950, 0x11c50, 0x11d50, 0x11da0, 0x16a60, 0x16ac0,
   0x16b50, 0x1d7ce, 0x1d7d8, 0x1d7e2, 0x1d7ec, 0x1d7f6, 0x1e140, 0x1e2f0, 0x1e950, 0x1fbf0]

/-- The value of a digit. -/
def digitValue? (c : Char) : Option Nat :=
  (zeros.find? fun z => z ≤ c.toNat ∧ c.toNat < z + 10).map (c.toNat - ·)

/-- Ten code points from each zero on there is no other zero: the value of a
digit is unambiguous. -/
theorem zeros_apart : zeros.Pairwise (· + 10 ≤ ·) := by decide

/-- The ASCII character that stands for a character of a number: ASCII stays
as it is, and a digit becomes the digit of the same value. -/
def plain? (c : Char) : Option Char :=
  if c.toNat < 127 then some c else (digitValue? c).map Nat.digitChar

theorem plain?_of_isDigit {c : Char} (h : c.isDigit = true) : plain? c = some c := by
  have hbounds := toNat_of_isDigit h
  exact if_pos (by omega)

/-- Characters that stay as they are stay so together. -/
theorem mapM_plain?_eq_self : ∀ {cs : List Char}, (∀ c ∈ cs, plain? c = some c) →
    cs.mapM plain? = some cs
  | [], _ => rfl
  | c :: cs, h => by
    have hc : plain? c = some c := h c List.mem_cons_self
    have hrest := mapM_plain?_eq_self fun d hd => h d (List.mem_cons_of_mem c hd)
    simp [hc, hrest]

end Text
end VmResource
