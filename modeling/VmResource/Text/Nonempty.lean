/-
# Texts that are not empty

Names of resources and addresses of accounts are texts of at least one
character.

Key definitions: `NonemptyText`.
-/

namespace VmResource

/-- A text of at least one character. -/
structure NonemptyText where
  text : String
  text_ne_empty : text ≠ ""
deriving DecidableEq, Repr

end VmResource
