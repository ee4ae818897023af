/-
# Quoted text

Messages quote the text they complain about. The quote mark is `'`, or `"`
when the text holds `'` and no `"`; the mark and the backslash are escaped
with a backslash, the three common line controls have their letters, and
any other code point without a visible form is written in two, four or eight
lower-case hexadecimal digits.

Key definitions: `Text.quoted`.
-/
import VmResource.Text
import VmResource.Text.Unprintable

namespace VmResource
namespace Text

/-- The mark that goes around a text. -/
def quoteMark (cs : List CodePoint) : Char :=
  if cs.contains (.char '\'') && !cs.contains (.char '"') then '"' else '\''

/-- `n` in hexadecimal, filled up with zeros to `width` digits. -/
def hex (width n : Nat) : List Char := List.leftpad width '0' (Nat.toDigits 16 n)

/-- The form of one character between two marks `mark`. -/
def escaped (mark c : Char) : List Char :=
  if c = mark ∨ c = '\\' then ['\\', c]
  else if c = '\n' then ['\\', 'n']
  else if c = '\r' then ['\\', 'r']
  else if c = '\t' then ['\\', 't']
  else if isUnprintable c then
    if c.toNat < 0x100 then '\\' :: 'x' :: hex 2 c.toNat
    else if c.toNat < 0x10000 then '\\' :: 'u' :: hex 4 c.toNat
    else '\\' :: 'U' :: hex 8 c.toNat
  else [c]

/-- The form of one code point between two marks `mark`. -/
def escapedCode (mark : Char) : CodePoint → List Char
  | .char c => escaped mark c
  | .surrogate u => '\\' :: 'u' :: hex 4 u.value

/-- A text between quote marks. -/
def quoted (t : Text) : String :=
  let mark := quoteMark t.codes
  String.ofList (mark :: t.codes.flatMap (escapedCode mark) ++ [mark])

end Text
end VmResource
