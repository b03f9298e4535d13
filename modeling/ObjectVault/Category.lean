import ObjectVault.Bytes

/-!
# Categories

Every stored blob belongs to one of three categories. The category decides the tag at the front
of its key and, for objects, the key under which it is sealed.
-/

namespace ObjectVault

/-- What a stored blob is. -/
inductive Category where
  /-- Data of the vault's owner that is no object and is kept in the clear. -/
  | internal
  /-- An object that anyone who can read the database may see. -/
  | publicObject
  /-- An object that only the holder of the master key may see. -/
  | privateObject
  deriving DecidableEq, Repr

namespace Category

/-- All categories. -/
def all : List Category := [.internal, .publicObject, .privateObject]

/-- The text at the front of a key. -/
def label : Category → String
  | .internal => "InternalBlob"
  | .publicObject => "PublicBlob"
  | .privateObject => "PrivateBlob"

/-- The bytes at the front of a key. -/
def tag (category : Category) : Bytes := Bytes.ofText category.label

/-- The category with a tag. -/
def ofTag? (tag : Bytes) : Option Category := all.find? fun category => category.tag == tag

/-- The category with a label. -/
def ofLabel? (label : String) : Option Category := ofTag? (Bytes.ofText label)

/-- The category of an object. -/
def ofPrivacy : (isPrivate : Bool) → Category
  | true => .privateObject
  | false => .publicObject

/-- Whether an object of the given privacy may be stored in this category. -/
def accepts : Category → (isPrivate : Bool) → Bool
  | .publicObject, isPrivate => !isPrivate
  | .privateObject, isPrivate => isPrivate
  | .internal, _ => false

/-- The category in a message. -/
def message : Category → String
  | .internal => "internal"
  | .publicObject => "public"
  | .privateObject => "private"

/-- The category in inspection text. -/
def inspect : Category → String
  | .internal => "Internal"
  | .publicObject => "Public"
  | .privateObject => "Private"

@[simp] theorem ofTag?_tag (category : Category) : ofTag? category.tag = some category := by
  cases category <;> decide

/-- A category accepts exactly the objects of its own privacy. -/
theorem accepts_iff {category : Category} {isPrivate : Bool} :
    category.accepts isPrivate = true ↔ category = ofPrivacy isPrivate := by
  cases category <;> cases isPrivate <;> decide

end Category

end ObjectVault
