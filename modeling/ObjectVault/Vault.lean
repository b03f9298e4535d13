import ObjectVault.Session

/-!
# The vault

A vault is a session behind a lock. A panic while the lock is held breaks it for good: the
session is left as it was at the panic, and every later call that takes the lock is refused
before it reaches the database.
-/

namespace ObjectVault

/-- An open vault. -/
structure Vault (ω : Type) where
  session : Session ω
  poisoned : Bool := false

namespace Vault

variable {ω α : Type}

/-- Runs an action on the session with the lock held. -/
def locked (action : Action (Session ω) α) : Action (Vault ω) α := do
  let vault ← Action.state
  if vault.poisoned then
    Action.fail (.lock "store mutex poisoned")
  else
    (action.within Vault.session fun session vault => { vault with session }).onPanic
      fun vault => { vault with poisoned := true }

/-- Stores a new object and answers its handle. -/
def insert (services : Services ω) (blob : Blob) : Action (Vault ω) Handle :=
  locked (Session.insert services blob)

/-- Replaces the object under a handle by one of the same privacy. -/
def update (services : Services ω) (handle : Handle) (blob : Blob) : Action (Vault ω) Unit :=
  locked (Session.update services handle blob)

/-- Deletes the object under a handle. -/
def delete (services : Services ω) (handle : Handle) : Action (Vault ω) Unit :=
  locked (Session.delete services handle)

/-- Deletes all objects and keeps the internal blobs. -/
def deleteAll (services : Services ω) : Action (Vault ω) Unit :=
  locked (Session.deleteAll services)

/-- Loads all public objects that are not damaged. -/
def loadPublic (services : Services ω) : Action (Vault ω) (SortedMap Handle Blob) :=
  locked (Session.load services .publicObject)

/-- Loads all private objects that the master key opens. -/
def loadPrivate (services : Services ω) : Action (Vault ω) (SortedMap Handle Blob) :=
  locked (Session.loadPrivate services)

/-- Reads an internal blob. -/
def getInternal (services : Services ω) (number : UInt32) : Action (Vault ω) (Option Bytes) :=
  locked (Session.getInternal services number)

/-- Stores an internal blob. -/
def setInternal (services : Services ω) (number : UInt32) (value : Bytes) :
    Action (Vault ω) Unit :=
  locked (Session.setInternal services number value)

/-- Sets the master key. The size of the key is checked before the lock is taken. -/
def setMasterKey (bytes : Bytes) : Action (Vault ω) Unit := do
  let key ← (Action.ofExcept (SealingKey.ofBytes bytes)).loggingError VaultError.message
  locked (Action.change fun session => { session with masterKey := some key })

/-- Whether a master key is set. -/
def hasMasterKey : Action (Vault ω) Bool :=
  locked do return (← Action.state).masterKey.isSome

/-- The version of the format in the database. -/
def formatVersion (services : Services ω) : Action (Vault ω) UInt32 :=
  locked (Session.onWorld (Metadata.require services.backend .formatVersion))

/-- A call of the vault. -/
inductive Operation where
  | insert (blob : Blob)
  | update (handle : Handle) (blob : Blob)
  | delete (handle : Handle)
  | deleteAll
  | loadPublic
  | loadPrivate
  | getInternal (number : UInt32)
  | setInternal (number : UInt32) (value : Bytes)
  | setMasterKey (bytes : Bytes)
  | hasMasterKey
  | formatVersion
  deriving DecidableEq, Repr

/-- What a call of the vault answers. -/
inductive Answer where
  | nothing
  | handle (handle : Handle)
  | objects (objects : SortedMap Handle Blob)
  | internal (value : Option Bytes)
  | truth (value : Bool)
  | number (value : UInt32)
  deriving DecidableEq

/-- Makes a call of the vault. -/
def perform (services : Services ω) : Operation → Action (Vault ω) Answer
  | .insert blob => return .handle (← insert services blob)
  | .update handle blob => do
    update services handle blob
    return .nothing
  | .delete handle => do
    delete services handle
    return .nothing
  | .deleteAll => do
    deleteAll services
    return .nothing
  | .loadPublic => return .objects (← loadPublic services)
  | .loadPrivate => return .objects (← loadPrivate services)
  | .getInternal number => return .internal (← getInternal services number)
  | .setInternal number value => do
    setInternal services number value
    return .nothing
  | .setMasterKey bytes => do
    setMasterKey bytes
    return .nothing
  | .hasMasterKey => return .truth (← hasMasterKey)
  | .formatVersion => return .number (← formatVersion services)

end Vault

end ObjectVault
