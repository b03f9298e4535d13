import ObjectVault.Proofs.Lifetime

/-!
# Plain vaults

What a vault is to its user, without a database, envelopes or keys of entries: a map of objects, a
map of internal blobs, a counter, a master key, and the handles that are known in the session.
`Plain.outcomes` is what comes of the steps of a program if nothing goes wrong.
-/

namespace ObjectVault

open Lifetime

/-- An object of a plain vault. -/
structure PlainObject where
  isPrivate : Bool
  payload : Bytes
  /-- The key under which it was sealed last. -/
  sealedUnder : SealingKey

/-- A vault without a database. -/
structure Plain where
  next : UInt32 := Metadata.firstHandle
  internal : SortedMap UInt32 Bytes := ∅
  objects : SortedMap Handle PlainObject := ∅
  masterKey : Option SealingKey := none
  /-- The objects that were inserted or loaded in this session and not deleted. -/
  known : SortedMap Handle Category := ∅

namespace Plain

/-- The key under which an object is sealed now. -/
def sealingKey (plain : Plain) (isPrivate : Bool) : SealingKey :=
  if isPrivate then plain.masterKey.getD .obfuscation else .obfuscation

/-- Stores an object under a handle. -/
def store (plain : Plain) (handle : Handle) (blob : Blob) : Plain :=
  { plain with
    objects := plain.objects.insert handle
      ⟨blob.isPrivate, blob.payload, plain.sealingKey blob.isPrivate⟩ }

/-- Stores an object under the next handle, which is known then. -/
def insert (plain : Plain) (blob : Blob) : Ending Handle × Plain :=
  if blob.isPrivate ∧ plain.masterKey = none then (.failed .keyNotInitialized, plain)
  else if plain.next = Metadata.lastNumber then (.failed .idSpaceExhausted, plain)
  else
    (.done ⟨plain.next⟩, { plain.store ⟨plain.next⟩ blob with
      next := plain.next + 1
      known := plain.known.insert ⟨plain.next⟩ (.ofPrivacy blob.isPrivate) })

/-- Replaces a known object by one of the same privacy. -/
def update (plain : Plain) (handle : Handle) (blob : Blob) : Ending Unit × Plain :=
  if plain.known.get? handle = some (.ofPrivacy blob.isPrivate) then
    (.done (), plain.store handle blob)
  else
    (.failed (.privacyMismatch handle ((plain.known.get? handle).getD .internal)), plain)

/-- Deletes a known object, or the internal blob with the number of a handle that is not known. -/
def delete (plain : Plain) (handle : Handle) : Plain :=
  match plain.known.get? handle with
  | some _ =>
    { plain with objects := plain.objects.erase handle, known := plain.known.erase handle }
  | none => { plain with internal := plain.internal.erase handle.number }

/-- The public objects, or the private ones that were sealed under the master key. -/
def readable (plain : Plain) (isPrivate : Bool) : SortedMap Handle Blob :=
  plain.objects.filterMap fun object =>
    if object.isPrivate = isPrivate ∧ (isPrivate → plain.masterKey = some object.sealedUnder) then
      some ⟨isPrivate, object.payload⟩
    else none

/-- Loads objects, which are known then. -/
def load (plain : Plain) (isPrivate : Bool) : SortedMap Handle Blob × Plain :=
  let objects := plain.readable isPrivate
  (objects, { plain with
    known := plain.known.insertAll
      (objects.entries.map fun entry => (entry.1, .ofPrivacy isPrivate)) })

/-- Makes a call. -/
def perform (plain : Plain) : Vault.Operation → Ending Vault.Answer × Plain
  | .insert blob => ((plain.insert blob).1.map .handle, (plain.insert blob).2)
  | .update handle blob =>
    ((plain.update handle blob).1.map fun _ => .nothing, (plain.update handle blob).2)
  | .delete handle => (.done .nothing, plain.delete handle)
  | .deleteAll => (.done .nothing, { plain with objects := ∅, known := ∅ })
  | .loadPublic => (.done (.objects (plain.load false).1), (plain.load false).2)
  | .loadPrivate =>
    if plain.masterKey = none then (.failed .keyNotInitialized, plain)
    else (.done (.objects (plain.load true).1), (plain.load true).2)
  | .getInternal number => (.done (.internal (plain.internal.get? number)), plain)
  | .setInternal number value =>
    (.done .nothing, { plain with internal := plain.internal.insert number value })
  | .setMasterKey bytes =>
    if fits : bytes.length = 32 then
      (.done .nothing, { plain with masterKey := some ⟨bytes, fits⟩ })
    else (.failed (.invalidKeyLength 32 bytes.length), plain)
  | .hasMasterKey => (.done (.truth plain.masterKey.isSome), plain)
  | .formatVersion => (.done (.number Metadata.formatVersion), plain)

/-- Takes a step. There is no vault before it is opened for the first time. -/
def take : Step → Option Plain → Outcome × Option Plain
  | .reopen _ masterKey, none => (.opening (.done ⟨(), .opened, true⟩), some { masterKey })
  | .reopen _ masterKey, some plain =>
    (.opening (.done ⟨(), .opened, false⟩), some { plain with masterKey, known := ∅ })
  | .operate _, none => (.nothing, none)
  | .operate operation, some plain =>
    (.answer (plain.perform operation).1, some (plain.perform operation).2)

/-- What comes of some steps. -/
def outcomes : List Step → Option Plain → List Outcome
  | [], _ => []
  | step :: rest, plain => (take step plain).1 :: outcomes rest (take step plain).2

end Plain

end ObjectVault
