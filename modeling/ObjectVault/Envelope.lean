import ObjectVault.Suite

/-!
# Envelopes

The stored form of an object: a version byte, the nonce, the encrypted payload, and a digest of
all of these under the same key. An envelope is authenticated before anything in it is looked at.
-/

namespace ObjectVault.Envelope

/-- The version of the format. -/
def version : UInt8 := 1

/-- The size of the digest at the end in bytes. -/
def digestSize : Nat := 64

/-- The envelope of a payload. -/
def write (suite : Suite) (key : SealingKey) (nonce : Nonce) (payload : Bytes) :
    Except VaultError Bytes :=
  match suite.encrypt? key nonce payload with
  | some body =>
    let signed := version :: (nonce.bytes ++ body)
    .ok (signed ++ suite.tag key signed)
  | none => .error (.encryption "aead::Error")

/-- The part of an envelope before its digest, if the digest is right. -/
def authenticated (suite : Suite) (key : SealingKey) (envelope : Bytes) :
    Except VaultError Bytes :=
  if envelope.length < digestSize then
    .error (.integrity
      ("envelope of " ++ toString envelope.length ++ " bytes is shorter than its MAC"))
  else
    let signed := envelope.take (envelope.length - digestSize)
    if suite.tag key signed = envelope.drop (envelope.length - digestSize) then .ok signed
    else .error (.integrity "MAC mismatch")

/-- Decrypts what follows the version byte: the nonce and the encrypted payload. -/
def decryptBody (suite : Suite) (key : SealingKey) (body : Bytes) : Except VaultError Bytes :=
  if long : 24 ≤ body.length then
    match suite.decrypt? key ⟨body.take 24, by simp [long]⟩ (body.drop 24) with
    | some payload => .ok payload
    | none => .error (.decryption "aead::Error")
  else .error (.decryption "ciphertext too short")

/-- The payload of an envelope. -/
def read (suite : Suite) (key : SealingKey) (envelope : Bytes) : Except VaultError Bytes :=
  match authenticated suite key envelope with
  | .error error => .error error
  | .ok [] => .error (.integrity "envelope has no version header")
  | .ok (found :: body) =>
    if found = version then decryptBody suite key body else .error (.unsupportedVersion found)

/-- Seals a blob under the key for its privacy. A nonce is drawn once the key is selected. -/
def encrypt (suite : Suite) (master : Option SealingKey) (supply : NonceSupply) (blob : Blob) :
    Except VaultError Blob × NonceSupply :=
  match SealingKey.select blob.isPrivate master with
  | .error error => (.error error, supply)
  | .ok key =>
    ((write suite key supply.next blob.payload).map (⟨blob.isPrivate, ·⟩), supply.advance)

/-- Opens a sealed blob with the key for its privacy. -/
def decrypt (suite : Suite) (master : Option SealingKey) (blob : Blob) : Except VaultError Blob :=
  match SealingKey.select blob.isPrivate master with
  | .error error => .error error
  | .ok key => (read suite key blob.payload).map (⟨blob.isPrivate, ·⟩)

end ObjectVault.Envelope
