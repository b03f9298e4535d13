import ObjectVault.Category
import ObjectVault.Object
import ObjectVault.Text.Quoted

/-!
# Errors

`BackendError` is what a database answers when a call fails, `VaultError` what the vault answers.
Each has a message, and an inspection text that shows its structure.
-/

namespace ObjectVault

/-- What kind of failure a database reports. -/
inductive BackendError.Kind where
  | opening
  | corrupted
  | io
  | transaction
  | unsupported
  deriving DecidableEq, Repr

namespace BackendError.Kind

/-- The kind in a message. -/
def message : Kind → String
  | .opening => "open"
  | .corrupted => "corrupted"
  | .io => "io"
  | .transaction => "transaction"
  | .unsupported => "unsupported"

/-- The kind in inspection text. -/
def inspect : Kind → String
  | .opening => "Open"
  | .corrupted => "Corrupted"
  | .io => "Io"
  | .transaction => "Transaction"
  | .unsupported => "Unsupported"

end BackendError.Kind

/-- A failed call of a database. -/
structure BackendError where
  kind : BackendError.Kind
  text : String
  deriving DecidableEq, Repr

namespace BackendError

/-- Whether the error reports an inconsistent database. -/
def isCorruption (error : BackendError) : Bool := error.kind == .corrupted

/-- The error in one line. -/
def message (error : BackendError) : String :=
  "backend " ++ error.kind.message ++ " error: " ++ error.text

/-- The error in inspection text. -/
def inspect (error : BackendError) : String :=
  Inspect.closed "DbError"
    [("kind", error.kind.inspect), ("message", Quoted.text error.text)]

end BackendError

/-- The metadata kept beside the blobs. -/
inductive MetadataItem where
  | nextHandle
  | formatVersion
  deriving DecidableEq, Repr

/-- The key of an item, as text. -/
def MetadataItem.name : MetadataItem → String
  | .nextHandle => "NextBlobID"
  | .formatVersion => "DBVersion"

/-- The key of an item. -/
def MetadataItem.key (item : MetadataItem) : Bytes := Bytes.ofText item.name

/-- Why an operation of the vault failed. -/
inductive VaultError where
  | keyNotInitialized
  | invalidKeyLength (expected actual : Nat)
  /-- An envelope is cut short or its tag is wrong. -/
  | integrity (reason : String)
  | unsupportedVersion (version : UInt8)
  /-- The cipher rejects the body of an authentic envelope. -/
  | decryption (reason : String)
  | encryption (reason : String)
  /-- An object's privacy is not that of the category known for its handle. -/
  | privacyMismatch (handle : Handle) (category : Category)
  | idSpaceExhausted
  | invalidMetadata (item : MetadataItem) (value : String)
  | missingMetadata (item : MetadataItem)
  | backend (error : BackendError)
  | unsupportedEnvironment (reason : String)
  | initializationFailed (reason : String)
  | incompleteDeletion (failed attempted : Nat)
  | lock (reason : String)
  deriving DecidableEq, Repr

namespace VaultError

/-- The name of the kind of error. -/
def name : VaultError → String
  | .keyNotInitialized => "KeyNotInitialized"
  | .invalidKeyLength .. => "InvalidKeyLength"
  | .integrity _ => "Integrity"
  | .unsupportedVersion _ => "UnsupportedVersion"
  | .decryption _ => "Decryption"
  | .encryption _ => "Encryption"
  | .privacyMismatch .. => "PrivacyMismatch"
  | .idSpaceExhausted => "IdSpaceExhausted"
  | .invalidMetadata .. => "InvalidMetadata"
  | .missingMetadata _ => "MissingMetadata"
  | .backend _ => "Backend"
  | .unsupportedEnvironment _ => "UnsupportedEnvironment"
  | .initializationFailed _ => "InitializationFailed"
  | .incompleteDeletion .. => "IncompleteDeletion"
  | .lock _ => "Lock"

/-- The error in one line. -/
def message : VaultError → String
  | .keyNotInitialized => "the store encryption key has not been initialized"
  | .invalidKeyLength expected actual =>
    "unexpected key size: expected " ++ toString expected ++ " bytes, got " ++ toString actual
  | .integrity reason => "failed to verify blob integrity: " ++ reason
  | .unsupportedVersion version =>
    "blob found with unsupported version: " ++ toString version.toNat
  | .decryption reason => "decryption error: " ++ reason
  | .encryption reason => "encryption error: " ++ reason
  | .privacyMismatch handle category =>
    "object privacy mismatch for handle " ++ handle.message ++ ": recorded as " ++
      category.message
  | .idSpaceExhausted => "object id space exhausted"
  | .invalidMetadata item value =>
    "invalid metadata value under " ++ item.name ++ ": " ++ Quoted.text value
  | .missingMetadata item => "metadata key " ++ item.name ++ " is missing"
  | .backend error => "backend error: " ++ error.message
  | .unsupportedEnvironment reason => "unsupported environment: " ++ reason
  | .initializationFailed reason => "store initialization failed: " ++ reason
  | .incompleteDeletion failed attempted =>
    "failed to delete " ++ toString failed ++ " of " ++ toString attempted ++ " object blobs"
  | .lock reason => "store lock error: " ++ reason

/-- The error in inspection text. -/
def inspect (error : VaultError) : String :=
  match error with
  | .keyNotInitialized | .idSpaceExhausted => error.name
  | .invalidKeyLength expected actual =>
    Inspect.closed error.name [("expected", toString expected), ("actual", toString actual)]
  | .unsupportedVersion version => Inspect.applied error.name [toString version.toNat]
  | .privacyMismatch handle category =>
    Inspect.closed error.name [("handle", handle.inspect), ("category", category.inspect)]
  | .invalidMetadata item value =>
    Inspect.closed error.name [("key", Quoted.text item.name), ("value", Quoted.text value)]
  | .missingMetadata item => Inspect.applied error.name [Quoted.text item.name]
  | .backend cause => Inspect.applied error.name [cause.inspect]
  | .incompleteDeletion failed attempted =>
    Inspect.closed error.name [("failed", toString failed), ("attempted", toString attempted)]
  | .integrity reason | .decryption reason | .encryption reason | .unsupportedEnvironment reason
  | .initializationFailed reason | .lock reason =>
    Inspect.applied error.name [Quoted.text reason]

/-- Whether the error tells of one damaged blob rather than of the vault as a whole. -/
def isBlobDamage : VaultError → Bool
  | .integrity _ | .unsupportedVersion _ | .decryption _ => true
  | _ => false

/-- The database error underneath. -/
def source? : VaultError → Option BackendError
  | .backend error => some error
  | _ => none

end VaultError

end ObjectVault
