import ObjectVault.Category
import ObjectVault.Log
import ObjectVault.Text.Decimal
import ObjectVault.Text.Utf8

/-!
# Blob keys

A blob is stored under the tag of its category, the byte `&` and its number in decimal digits.
Metadata lives among the blobs under keys that are no blob keys. A number may be spelled with
leading zeros when a key is read, never when it is written.
-/

namespace ObjectVault.BlobKey

/-- The byte between the tag and the number: `&`. -/
def separator : UInt8 := 38

/-- The key of a blob. -/
def encode (category : Category) (number : UInt32) : Bytes :=
  category.tag ++ separator :: Decimal.render number.toNat

/-- What a key says. -/
inductive Reading where
  | blob (category : Category) (number : UInt32)
  /-- A text that ends in a separator and a number, but has no category's tag in front. -/
  | unknownTag (text : String)
  | other
  deriving DecidableEq, Repr

/-- Reads a key. The number stands after the last separator. -/
def read (key : Bytes) : Reading :=
  match Bytes.splitLast? separator key with
  | none => .other
  | some (tag, digits) =>
    match Decimal.parse? digits with
    | none => .other
    | some number =>
      match Category.ofTag? tag with
      | some category => .blob category number
      | none =>
        match Utf8.decode? key with
        | some text => .unknownTag text
        | none => .other

/-- The category and the number of a blob key, and nothing for any other key. -/
def decode? (key : Bytes) : Option (Category × UInt32) :=
  match read key with
  | .blob category number => some (category, number)
  | _ => none

/-- What is logged when a key is read. -/
def remarks (key : Bytes) : List LogLine :=
  match read key with
  | .unknownTag text => [⟨.debug, "Ignoring key with unknown blob prefix: " ++ text⟩]
  | _ => []

end ObjectVault.BlobKey
