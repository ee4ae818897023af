/-
# Texts

A text is a sequence of code points. Nearly always these are characters, and
the text is a string then; a text that holds a surrogate, as the one written
`"\ud800"`, is broken. Some places take every text, others strings only.

Key definitions: `Text`, `Text.codes`, `Text.ofCodes`, `Text.IsUnicode`.
Key theorems: `Text.codes_ofCodes`, `Text.ofCodes_codes`,
`Text.codes_injective`, `Text.append_assoc`.
-/
import VmResource.Text.CodePoint

namespace VmResource

open CodePoint (chars? ofChars)

/-- A text: a string, or code points that are not all of them characters. Where a
text is read, two surrogates that make a pair stand for one character. -/
inductive Text where
  | unicode (s : String)
  | broken (cs : List CodePoint) (chars?_eq : chars? cs = none)
deriving DecidableEq, Repr

instance : Coe String Text := ⟨.unicode⟩

namespace Text

instance : Inhabited Text := ⟨.unicode ""⟩

/-- The code points of a text. -/
def codes : Text → List CodePoint
  | .unicode s => ofChars s.toList
  | .broken cs _ => cs

/-- The text of some code points. -/
def ofCodes (cs : List CodePoint) : Text :=
  match h : chars? cs with
  | some ds => .unicode (String.ofList ds)
  | none => .broken cs h

@[simp] theorem codes_ofCodes (cs : List CodePoint) : (ofCodes cs).codes = cs := by
  unfold ofCodes
  split
  · next ds h => simpa [codes] using CodePoint.ofChars_of_chars? h
  · rfl

/-- A text is known by its code points. -/
theorem codes_injective : ∀ {t u : Text}, t.codes = u.codes → t = u
  | .unicode s, .unicode r, h => by
    rw [String.toList_inj.mp (CodePoint.ofChars_injective h)]
  | .unicode s, .broken _ hu, h => by
    obtain rfl : ofChars s.toList = _ := h
    simp [CodePoint.chars?_ofChars] at hu
  | .broken _ ht, .unicode r, h => by
    obtain rfl : _ = ofChars r.toList := h
    simp [CodePoint.chars?_ofChars] at ht
  | .broken _ _, .broken _ _, h => by
    obtain rfl := h
    rfl

@[simp] theorem codes_inj {t u : Text} : t.codes = u.codes ↔ t = u :=
  ⟨codes_injective, fun h => h ▸ rfl⟩

@[simp] theorem ofCodes_codes (t : Text) : ofCodes t.codes = t :=
  codes_injective (codes_ofCodes t.codes)

theorem codes_unicode (s : String) : codes (.unicode s) = ofChars s.toList := rfl

@[simp] theorem length_codes (s : String) : (codes (.unicode s)).length = s.length := by
  rw [codes_unicode, ofChars, List.length_map, String.length_toList]

theorem ofCodes_ofChars (cs : List Char) : ofCodes (ofChars cs) = .unicode (String.ofList cs) :=
  codes_injective (by simp [codes_unicode])

@[simp] theorem unicode_beq_unicode (s r : String) :
    (Text.unicode s == Text.unicode r) = (s == r) := by
  rw [Bool.eq_iff_iff, beq_iff_eq, beq_iff_eq, unicode.injEq]

/-- The text is a string. -/
def IsUnicode : Text → Prop
  | .unicode _ => True
  | .broken _ _ => False

instance : DecidablePred IsUnicode
  | .unicode _ => inferInstanceAs (Decidable True)
  | .broken _ _ => inferInstanceAs (Decidable False)

@[simp] theorem isUnicode_unicode (s : String) : IsUnicode (.unicode s) := trivial

/-- One half of a surrogate pair. -/
def halfPair : Text := .broken [.surrogate ⟨0xd800, by decide, by decide⟩] rfl

example : ¬ halfPair.IsUnicode := by decide

theorem isUnicode_iff {t : Text} : t.IsUnicode ↔ ∃ s : String, t = .unicode s := by
  cases t <;> simp [IsUnicode]

/-- A string is a text without surrogates. -/
theorem isUnicode_iff_forall_not_mem {t : Text} : t.IsUnicode ↔ ∀ u, .surrogate u ∉ t.codes := by
  cases t with
  | unicode s => simp [codes, ofChars]
  | broken cs hcs => simpa [IsUnicode, codes] using CodePoint.exists_surrogate_mem hcs

/-- The code points of a text, each as a text. -/
def characters (t : Text) : List Text := t.codes.map fun c => ofCodes [c]

/-! ### Putting texts together -/

/-- One text after another. -/
def append : Text → Text → Text
  | .unicode s, .unicode r => .unicode (s ++ r)
  | t, u => ofCodes (t.codes ++ u.codes)

instance : Append Text := ⟨append⟩

@[simp] theorem unicode_append (s r : String) :
    Text.unicode s ++ Text.unicode r = Text.unicode (s ++ r) := rfl

@[simp] theorem codes_append : ∀ t u : Text, (t ++ u).codes = t.codes ++ u.codes
  | .unicode s, .unicode r => by
    simp only [unicode_append, codes_unicode, String.toList_append, CodePoint.ofChars_append]
  | .unicode _, .broken _ _ | .broken _ _, .unicode _ | .broken _ _, .broken _ _ =>
    codes_ofCodes _

theorem append_assoc (t u v : Text) : t ++ u ++ v = t ++ (u ++ v) :=
  codes_injective (by simp only [codes_append, List.append_assoc])

@[simp] theorem empty_append (t : Text) : .unicode "" ++ t = t :=
  codes_injective (codes_append "" t)

end Text
end VmResource
