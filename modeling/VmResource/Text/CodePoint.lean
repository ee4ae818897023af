/-
# Code points

What a text consists of: characters, and surrogates, the halves of the pairs
by which some encodings write a character. In a text a surrogate is a code
point of its own, also where another one stands beside it.

Key definitions: `CodePoint`, `CodePoint.ofChars`, `CodePoint.chars?`.
Key theorems: `CodePoint.chars?_ofChars`, `CodePoint.ofChars_of_chars?`.
-/

namespace VmResource

/-- A surrogate, one half of a pair. -/
structure Surrogate where
  value : Nat
  le_value : 0xd800 ≤ value
  value_le : value ≤ 0xdfff
deriving DecidableEq, Repr

/-- A code point is a character or a surrogate. -/
inductive CodePoint where
  | char (c : Char)
  | surrogate (u : Surrogate)
deriving DecidableEq, Repr

namespace CodePoint

/-- The code points of characters. -/
def ofChars (cs : List Char) : List CodePoint := cs.map .char

/-- The characters, if the code points are nothing else. -/
def chars? : List CodePoint → Option (List Char)
  | [] => some []
  | .char c :: cs => (chars? cs).map (c :: ·)
  | .surrogate _ :: _ => none

@[simp] theorem ofChars_append (cs ds : List Char) :
    ofChars (cs ++ ds) = ofChars cs ++ ofChars ds := List.map_append

theorem ofChars_injective {cs ds : List Char} (h : ofChars cs = ofChars ds) : cs = ds :=
  List.map_inj_right (fun _ _ he => CodePoint.char.inj he) |>.mp h

theorem chars?_ofChars : ∀ cs : List Char, chars? (ofChars cs) = some cs
  | [] => rfl
  | c :: cs => congrArg (Option.map (c :: ·)) (chars?_ofChars cs)

theorem ofChars_of_chars? : ∀ {cs : List CodePoint} {ds : List Char},
    chars? cs = some ds → ofChars ds = cs
  | [], _, h => by
    obtain rfl := Option.some.inj h
    rfl
  | .char c :: cs, ds, h => by
    obtain ⟨es, hes, rfl⟩ := Option.map_eq_some_iff.mp h
    exact congrArg (CodePoint.char c :: ·) (ofChars_of_chars? hes)

/-- Code points that are not all of them characters have a surrogate among
them. -/
theorem exists_surrogate_mem : ∀ {cs : List CodePoint}, chars? cs = none → ∃ u, .surrogate u ∈ cs
  | [], h => by cases h
  | .surrogate u :: _, _ => ⟨u, List.mem_cons_self⟩
  | .char _ :: cs, h => by
    obtain ⟨u, hu⟩ := exists_surrogate_mem (Option.map_eq_none_iff.mp h)
    exact ⟨u, List.mem_cons_of_mem _ hu⟩

end CodePoint
end VmResource
