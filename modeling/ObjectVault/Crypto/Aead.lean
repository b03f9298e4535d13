import ObjectVault.Crypto.ChaCha20
import ObjectVault.Crypto.Poly1305

/-!
# Authenticated encryption with a long nonce

XChaCha20-Poly1305 without associated data: the payload is masked with the keystream and the
masked bytes are authenticated by a sixteen-byte tag at their end.
-/

namespace ObjectVault.Aead

/-- The derived key and the short nonce for a nonce of 24 bytes. -/
def subkey (key nonce : Bytes) : Bytes × Bytes :=
  (ChaCha20.derivedKey key (nonce.take 16), [0, 0, 0, 0] ++ nonce.drop 16)

/-- The payload masked with the keystream, from the second block of it on. -/
def masked (key nonce payload : Bytes) : Bytes :=
  let (derived, short) := subkey key nonce
  Bytes.xor payload (ChaCha20.keystream derived short 1 payload.length)

/-- The bytes filled up with zeros to a multiple of sixteen. -/
def aligned (bytes : Bytes) : Bytes :=
  bytes ++ List.replicate ((16 - bytes.length % 16) % 16) 0

/-- The tag of masked bytes, under the one-time key from the first block of the keystream. -/
def tag (key nonce body : Bytes) : Bytes :=
  let (derived, short) := subkey key nonce
  let oneTime := (ChaCha20.block derived short 0).take 32
  Poly1305.tag oneTime (aligned body ++ Bytes.ofNatLittle 8 0 ++ Bytes.ofNatLittle 8 body.length)

/-- Whether the keystream has a block for every part of so many bytes. -/
def fits (length : Nat) : Bool := length / 64 < UInt32.size - 1

/-- Encrypts a payload, unless it is longer than the keystream. -/
def encrypt? (key nonce payload : Bytes) : Option Bytes :=
  if fits payload.length then
    let body := masked key nonce payload
    some (body ++ tag key nonce body)
  else none

/-- Decrypts masked bytes if the tag after them is right. -/
def decrypt? (key nonce bytes : Bytes) : Option Bytes :=
  if bytes.length < 16 then none
  else
    let body := bytes.take (bytes.length - 16)
    if fits body.length ∧ bytes.drop (bytes.length - 16) = tag key nonce body then
      some (masked key nonce body)
    else none

end ObjectVault.Aead
