import ObjectVault.Action
import ObjectVault.Text.Decimal
import ObjectVault.Text.Utf8

/-!
# Metadata

Two numbers are kept beside the blobs: the next handle to give out and the version of the
format. Both are decimal texts and are synced when written. A database counts as initialized
once it has a version, which is written last.
-/

namespace ObjectVault.Metadata

variable {ω : Type}

/-- The version of the format that is written. -/
def formatVersion : UInt32 := 1

/-- The first handle that is given out. -/
def firstHandle : UInt32 := 1

/-- The number that is never given out as a handle. -/
def lastNumber : UInt32 := 0xFFFFFFFF

/-- Reads an item, which may be missing but has to be a number. -/
def read (backend : Backend ω) (item : MetadataItem) : Action ω (Option UInt32) := do
  match ← Action.call (backend.get item.key) with
  | .error error => Action.fail (.backend error)
  | .ok none => return none
  | .ok (some raw) =>
    match Decimal.parse? raw with
    | some number => return some number
    | none => Action.fail (.invalidMetadata item (Utf8.lossy raw))

/-- Reads an item that has to be there. -/
def require (backend : Backend ω) (item : MetadataItem) : Action ω UInt32 := do
  match ← read backend item with
  | some number => return number
  | none => Action.fail (.missingMetadata item)

/-- Writes an item. -/
def write (backend : Backend ω) (item : MetadataItem) (number : UInt32) : Action ω Unit := do
  match ← Action.call (backend.put item.key (Decimal.render number.toNat) .synced) with
  | .ok () => return ()
  | .error error => Action.fail (.backend error)

/-- Whether the database has been initialized. -/
def isInitialized (backend : Backend ω) : Action ω Bool := do
  match ← Action.call (backend.get MetadataItem.formatVersion.key) with
  | .ok version => return version.isSome
  | .error error => Action.fail (.backend error)

/-- Writes the metadata of a new database. -/
def setUp (backend : Backend ω) : Action ω Unit := do
  write backend .nextHandle firstHandle
  write backend .formatVersion formatVersion

/-- Gives out the next handle. The counter is past it, and synced, before it is given out. -/
def allocate (backend : Backend ω) : Action ω Handle := do
  let next ← require backend .nextHandle
  if next = lastNumber then
    Action.fail .idSpaceExhausted
  else
    write backend .nextHandle (next + 1)
    return ⟨next⟩

end ObjectVault.Metadata
