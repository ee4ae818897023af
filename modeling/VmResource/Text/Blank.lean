/-
# Blank characters

The characters of the property White_Space, which may stand around a number
in a text.

Key definitions: `Text.isBlank`, `Text.trimmed`.
Key theorems: `Text.trimmed_eq_self`.
-/
import VmResource.Text.Digit

namespace VmResource
namespace Text

/-- The property White_Space. -/
def isBlank (c : Char) : Bool :=
  let n := c.toNat
  (0x9 ≤ n && n ≤ 0xd) || n == 0x20 || n == 0x85 || n == 0xa0 || n == 0x1680 ||
    (0x2000 ≤ n && n ≤ 0x200a) || n == 0x2028 || n == 0x2029 || n == 0x202f || n == 0x205f ||
    n == 0x3000

/-- A text without the blanks at both ends. -/
def trimmed (cs : List Char) : List Char :=
  ((cs.dropWhile isBlank).reverse.dropWhile isBlank).reverse

/-- A digit is no blank. -/
theorem isBlank_of_isDigit {c : Char} (h : c.isDigit = true) : isBlank c = false := by
  have hbounds := toNat_of_isDigit h
  simp [isBlank]
  omega

/-- A text without blanks stays as it is. -/
theorem trimmed_eq_self {cs : List Char} (h : ∀ c ∈ cs, isBlank c = false) : trimmed cs = cs := by
  have keep : ∀ ds : List Char, (∀ c ∈ ds, isBlank c = false) → ds.dropWhile isBlank = ds
    | [], _ => rfl
    | d :: ds, hd => by simp [hd d (by simp)]
  rw [trimmed, keep cs h, keep cs.reverse (by simpa using h), List.reverse_reverse]

end Text
end VmResource
