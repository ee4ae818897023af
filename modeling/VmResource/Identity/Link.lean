/-
# Links of identities

An identity is read from a URL by way of the address that the URL tells. A
text that is no URL of the kind is malformed; the parts of an address are
checked like those of an identity that is made from its fields.

Key definitions: `Identity.isUrl`, `Identity.read`.
-/
import VmResource.Identity.Basic

namespace VmResource
namespace Identity

/-- Whether a value is a URL that tells an address of kind `k`. -/
def isUrl (k : Kind) : Json → Bool
  | .text url => (Address.ofUrl? k url).isSome
  | _ => false

/-- Reads a URL from a payload. -/
def read (k : Kind) : Json → Except Error (Identity k)
  | .text url =>
    match Address.ofUrl? k url with
    | some a => a.check.orInvalid k.title
    | none => .error (.malformed (.notUrl k.title url) none)
  | v => .error (.about v (.urlNotText k.title v) none)

end Identity
end VmResource
