import ObjectVault.BlobKey
import ObjectVault.Error
import ObjectVault.Proofs.Decimal

/-!
# Blob keys read back

Blobs and metadata share one space of keys. `decode?_encode` reads back what was written, from
which it follows that no two blobs share a key (`encode_inj`), and `decode?_key` tells the
metadata apart from every blob (`encode_ne_key`).
-/

namespace ObjectVault

namespace Bytes

/-- What has no separator is not split. -/
theorem splitLast?_eq_none {separator : UInt8} {bytes : Bytes} (absent : separator ∉ bytes) :
    splitLast? separator bytes = none := by
  induction bytes with
  | nil => rfl
  | cons byte rest ih =>
    rw [List.mem_cons, not_or] at absent
    simp [splitLast?, ih absent.2, Ne.symm absent.1]

/-- What stands after a separator and holds none is the part after the last one. -/
theorem splitLast?_append {separator : UInt8} (front : Bytes) {back : Bytes}
    (absent : separator ∉ back) :
    splitLast? separator (front ++ separator :: back) = some (front, back) := by
  induction front with
  | nil => simp [splitLast?, splitLast?_eq_none absent]
  | cons byte rest ih => simp [splitLast?, ih]

end Bytes

namespace Category

@[simp] theorem ofPrivacy_ne_internal (isPrivate : Bool) : ofPrivacy isPrivate ≠ .internal := by
  cases isPrivate <;> simp [ofPrivacy]

@[simp] theorem ofPrivacy_inj {first second : Bool} :
    ofPrivacy first = ofPrivacy second ↔ first = second := by
  cases first <;> cases second <;> simp [ofPrivacy]

/-- Objects are private in one category only. -/
@[simp] theorem ofPrivacy_beq_privateObject (isPrivate : Bool) :
    (ofPrivacy isPrivate == .privateObject) = isPrivate := by
  cases isPrivate <;> rfl

end Category

/-- Handles with the same number are the same. -/
@[ext] theorem Handle.ext {first second : Handle} (same : first.number = second.number) :
    first = second := by
  cases first
  cases second
  exact congrArg mk same

namespace BlobKey

/-- No digit is the separator. -/
theorem separator_notMem_render (number : Nat) : separator ∉ Decimal.render number := by
  intro member
  have digit := List.all_eq_true.1 (Decimal.all_isDigit_render number) _ member
  exact Decimal.ne_of_isDigit digit (by decide) rfl

/-- A key that was written is read back. -/
@[simp] theorem decode?_encode (category : Category) (number : UInt32) :
    decode? (encode category number) = some (category, number) := by
  have split := Bytes.splitLast?_append category.tag (separator_notMem_render number.toNat)
  simp [decode?, read, encode, split, Decimal.parse?_render]

/-- The keys of metadata are no blob keys. -/
@[simp] theorem decode?_key (item : MetadataItem) : decode? item.key = none := by
  cases item <;> decide

/-- No two blobs share a key. -/
theorem encode_inj {first second : Category} {left right : UInt32} :
    encode first left = encode second right ↔ first = second ∧ left = right := by
  constructor
  · intro same
    have readings := congrArg decode? same
    simpa using readings
  · rintro ⟨rfl, rfl⟩
    rfl

/-- Blobs of different categories have different keys. -/
theorem encode_ne_of_category {first second : Category} (differs : first ≠ second)
    (left right : UInt32) : encode first left ≠ encode second right :=
  fun same => differs (encode_inj.1 same).1

/-- Blobs with different numbers have different keys. -/
theorem encode_ne_of_number {left right : UInt32} (differs : left ≠ right)
    (first second : Category) : encode first left ≠ encode second right :=
  fun same => differs (encode_inj.1 same).2

/-- No blob has the key of an item of metadata. -/
theorem encode_ne_key (category : Category) (number : UInt32) (item : MetadataItem) :
    encode category number ≠ item.key := by
  intro same
  have readings := congrArg decode? same
  simp at readings

/-- The two items of metadata have different keys. -/
theorem key_inj {first second : MetadataItem} : first.key = second.key ↔ first = second := by
  cases first <;> cases second <;> decide

end BlobKey

end ObjectVault
