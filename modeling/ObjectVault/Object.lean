import ObjectVault.Bytes
import ObjectVault.Text.Inspect

/-!
# Objects and their handles

An object is an opaque payload, public or private. It is stored under a handle, a 32-bit number
that is given out once and never again.
-/

namespace ObjectVault

/-- The number under which an object is stored. -/
structure Handle where
  number : UInt32
  deriving DecidableEq, Repr

namespace Handle

instance : Ord Handle := ⟨fun left right => compare left.number right.number⟩

instance : Std.TransOrd Handle where
  eq_swap {left right} :=
    Std.OrientedOrd.eq_swap (a := left.number) (b := right.number)
  isLE_trans {first second third} :=
    Std.TransOrd.isLE_trans (a := first.number) (b := second.number) (c := third.number)

instance : Std.LawfulEqOrd Handle where
  eq_of_compare {left right} same := by
    cases left
    cases right
    exact congrArg mk (Std.LawfulEqOrd.eq_of_compare same)

/-- The handle in decimal digits. -/
def message (handle : Handle) : String := toString handle.number.toNat

/-- The handle in inspection text. -/
def inspect (handle : Handle) : String := Inspect.applied "Handle" [handle.message]

end Handle

/-- An object's bytes and who may see them. The bytes are the payload itself or, inside the
database, the envelope around it. -/
structure Blob where
  isPrivate : Bool
  payload : Bytes
  deriving DecidableEq, Repr

namespace Blob

/-- The blob with its bytes wiped. -/
def wiped (blob : Blob) : Blob := { blob with payload := [] }

/-- The fields in inspection text, which tells the length of the payload only. -/
def fields (blob : Blob) : List (String × String) :=
  [("is_private", Inspect.truth blob.isPrivate),
    ("payload", "[" ++ toString blob.payload.length ++ " bytes]")]

/-- The blob in inspection text on one line. -/
def inspect (blob : Blob) : String := Inspect.closed "ObjectBlob" blob.fields

/-- The blob in inspection text with a line for every field. -/
def inspectLines (blob : Blob) : String := Inspect.lines "ObjectBlob" blob.fields

end Blob

end ObjectVault
