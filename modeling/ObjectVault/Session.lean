import ObjectVault.BlobKey
import ObjectVault.Envelope
import ObjectVault.Metadata

/-!
# Sessions

From the time it is opened, a vault keeps the master key and the category of every object it has
come across. Here is what it does with both and with the database, one call at a time. An object
whose category is not known is looked for among the internal blobs.
-/

namespace ObjectVault

/-- What a vault runs on. -/
structure Services (ω : Type) where
  suite : Suite
  backend : Backend ω

/-- What a vault works with while it is open. -/
structure Session (ω : Type) where
  world : ω
  nonces : NonceSupply
  masterKey : Option SealingKey := none
  /-- The category of every object that was inserted or loaded and not deleted. -/
  categories : SortedMap Handle Category := ∅

/-- A blob as it is found in the database. -/
structure StoredBlob where
  key : Bytes
  category : Category
  handle : Handle
  value : Bytes
  deriving DecidableEq, Repr

/-- The blob in an entry of the database, unless the entry is something else. -/
def StoredBlob.ofEntry? (entry : Bytes × Bytes) : Option StoredBlob :=
  (BlobKey.decode? entry.1).map fun (category, number) => ⟨entry.1, category, ⟨number⟩, entry.2⟩

/-- Whether the blob is an object. -/
def StoredBlob.isObject (blob : StoredBlob) : Bool := blob.category != .internal

namespace Session

variable {ω α : Type}

/-- Runs an action on the database's world. -/
def onWorld (action : Action ω α) : Action (Session ω) α :=
  action.within Session.world fun world session => { session with world }

/-- Makes a call of the database. -/
def call (request : ω → Reply α × ω) : Action (Session ω) (Except BackendError α) :=
  onWorld (Action.call request)

/-- Makes a call of the database. Its error is logged and is that of the action. -/
def callLogging (purpose : String) (request : ω → Reply α × ω) : Action (Session ω) α := do
  match ← call request with
  | .ok value => return value
  | .error error =>
    Action.log .error (purpose ++ ": " ++ error.message)
    Action.fail (.backend error)

/-- All blobs in the database, in key order. -/
def storedBlobs (backend : Backend ω) : Action (Session ω) (List StoredBlob) := do
  let scan ← onWorld (Action.step backend.scan)
  Action.logLines (scan.visited.flatMap fun entry => BlobKey.remarks entry.1)
  match scan.ending with
  | .done () => return scan.visited.filterMap StoredBlob.ofEntry?
  | .failed error => Action.fail (.backend error)
  | .panicked => Action.panicking

/-- The category known for a handle. -/
def categoryOf (session : Session ω) (handle : Handle) : Category :=
  (session.categories.get? handle).getD .internal

/-- Keeps the category of an object in mind. -/
def remember (handle : Handle) (category : Category) : Action (Session ω) Unit :=
  Action.change fun session =>
    { session with categories := session.categories.insert handle category }

/-- Forgets about an object. -/
def forget (handle : Handle) : Action (Session ω) Unit :=
  Action.change fun session => { session with categories := session.categories.erase handle }

/-- Ends with an error, of which there is a line in the log, as there is no master key. -/
def refuseWithoutKey : Action (Session ω) α := do
  Action.log .error "The store encryption key has not been initialized"
  Action.fail .keyNotInitialized

/-- Reads an internal blob. -/
def getInternal (services : Services ω) (number : UInt32) : Action (Session ω) (Option Bytes) :=
  callLogging ("Failed to read internal blob " ++ toString number.toNat)
    (services.backend.get (BlobKey.encode .internal number))

/-- Stores an internal blob. -/
def setInternal (services : Services ω) (number : UInt32) (value : Bytes) :
    Action (Session ω) Unit :=
  callLogging ("Failed to write internal blob " ++ toString number.toNat)
    (services.backend.put (BlobKey.encode .internal number) value .synced)

/-- Seals a blob, for which a nonce is drawn once the key is selected. -/
def encrypt (services : Services ω) (blob : Blob) : Action (Session ω) Blob := do
  let result ← Action.step fun session =>
    let (result, nonces) :=
      Envelope.encrypt services.suite session.masterKey session.nonces blob
    (result, { session with nonces })
  Action.ofExcept result

/-- Stores an object in place of the one under its handle. Its privacy has to be that of the
category known for the handle. -/
def update (services : Services ω) (handle : Handle) (blob : Blob) :
    Action (Session ω) Unit := do
  let session ← Action.state
  let category := session.categoryOf handle
  if category.accepts blob.isPrivate then
    let sealedBlob ← (encrypt services blob).loggingError fun error =>
      "Failed to encrypt object blob: " ++ error.message
    callLogging ("Failed to write object blob " ++ handle.message)
      (services.backend.put (BlobKey.encode category handle.number) sealedBlob.payload .synced)
  else
    Action.log .error ("Object privacy mismatch for handle " ++ handle.message)
    Action.fail (.privacyMismatch handle category)

/-- Stores a new object under a handle of its own. A handle is spent even if the object cannot
be stored, and is forgotten then. -/
def insert (services : Services ω) (blob : Blob) : Action (Session ω) Handle := do
  let session ← Action.state
  if blob.isPrivate && session.masterKey.isNone then
    refuseWithoutKey
  else
    let handle ← (onWorld (Metadata.allocate services.backend)).loggingError fun error =>
      "Failed to generate blob identifier: " ++ error.message
    remember handle (.ofPrivacy blob.isPrivate)
    match ← (update services handle blob).attempt with
    | .ok () =>
      Action.log .debug ("Inserted object " ++ handle.message)
      return handle
    | .error error =>
      forget handle
      Action.fail error

/-- Deletes what is stored under the handle in the category known for it. -/
def delete (services : Services ω) (handle : Handle) : Action (Session ω) Unit := do
  let session ← Action.state
  callLogging ("Failed to delete blob " ++ handle.message)
    (services.backend.delete (BlobKey.encode (session.categoryOf handle) handle.number) .synced)
  forget handle

/-- Deletes blobs one by one, and goes on after a failure. Answers the number of failures. -/
def deleteEach (services : Services ω) : List StoredBlob → Action (Session ω) Nat
  | [] => return 0
  | blob :: rest => do
    match ← call (services.backend.delete blob.key .synced) with
    | .ok () =>
      forget blob.handle
      deleteEach services rest
    | .error error =>
      Action.log .error ("Failed to delete blob " ++ blob.handle.message ++ ": " ++ error.message)
      return (← deleteEach services rest) + 1

/-- Deletes all objects. -/
def deleteAll (services : Services ω) : Action (Session ω) Unit := do
  let stored ← storedBlobs services.backend
  let objects := stored.filter StoredBlob.isObject
  let failures ← deleteEach services objects
  if failures = 0 then
    Action.log .info ("Deleted " ++ toString objects.length ++ " object blobs")
  else
    Action.fail (.incompleteDeletion failures objects.length)

/-- Opens envelopes one by one, and passes over damaged ones. Each object read takes the place of
an earlier one with the same handle. -/
def openEach (services : Services ω) (category : Category) :
    List StoredBlob → SortedMap Handle Blob → Action (Session ω) (SortedMap Handle Blob)
  | [], objects => return objects
  | blob :: rest, objects => do
    let session ← Action.state
    let envelope : Blob := ⟨category == .privateObject, blob.value⟩
    match Envelope.decrypt services.suite session.masterKey envelope with
    | .ok object =>
      remember blob.handle category
      openEach services category rest (objects.insert blob.handle object)
    | .error error =>
      if error.isBlobDamage then
        Action.log .warn
          ("Failed to decrypt object blob " ++ blob.handle.message ++ ": " ++ error.message)
        openEach services category rest objects
      else
        Action.fail error

/-- Loads all objects of a category. -/
def load (services : Services ω) (category : Category) :
    Action (Session ω) (SortedMap Handle Blob) := do
  let stored ← storedBlobs services.backend
  openEach services category (stored.filter fun blob => blob.category = category) ∅

/-- Loads all private objects. -/
def loadPrivate (services : Services ω) : Action (Session ω) (SortedMap Handle Blob) := do
  let session ← Action.state
  if session.masterKey.isNone then
    refuseWithoutKey
  else
    load services .privateObject

end Session

end ObjectVault
