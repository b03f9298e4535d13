import ObjectVault.SealingKey
import ObjectVault.Crypto.Aead
import ObjectVault.Crypto.Hmac

/-!
# Cipher suites

What an envelope needs: a cipher that takes a nonce, a keyed digest of 64 bytes, and a supply of
nonces. `Suite.standard` is the suite in use; statements about envelopes hold for every suite
whose cipher undoes itself.
-/

namespace ObjectVault

/-- A 24-byte nonce. -/
structure Nonce where
  bytes : Bytes
  length_eq : bytes.length = 24
  deriving DecidableEq, Repr

/-- The size of a nonce in bytes. -/
def Nonce.size : Nat := 24

/-- The nonce that follows `index` others in a row that is known beforehand. -/
def Nonce.counting (index : Nat) : Nonce where
  bytes := (List.range 24).map fun place => UInt8.ofNat (31 * index + 7 * place + 1)
  length_eq := by simp

/-- The nonces still to be drawn: all nonces ever, and how many of them are spent. -/
structure NonceSupply where
  /-- The nonce that is drawn after `index` others. -/
  nonce : (index : Nat) → Nonce
  spent : Nat := 0

namespace NonceSupply

/-- The nonce that is drawn next. -/
def next (supply : NonceSupply) : Nonce := supply.nonce supply.spent

/-- A supply of given nonces, which goes on with nonces that are known beforehand. -/
def ofList (nonces : List Nonce) : NonceSupply where
  nonce index := nonces.getD index (.counting index)

/-- The supply after one more draw. -/
def advance (supply : NonceSupply) : NonceSupply := { supply with spent := supply.spent + 1 }

end NonceSupply

/-- A cipher and a keyed digest. -/
structure Suite where
  /-- Encrypts a payload, if the cipher accepts one of its length. -/
  encrypt? : SealingKey → Nonce → Bytes → Option Bytes
  /-- Decrypts what `encrypt?` produces under the same key and nonce. -/
  decrypt? : SealingKey → Nonce → Bytes → Option Bytes
  tag : SealingKey → Bytes → Bytes
  length_tag : ∀ key message, (tag key message).length = 64

namespace Suite

/-- XChaCha20-Poly1305 with HMAC-SHA512. -/
def standard : Suite where
  encrypt? key nonce payload := Aead.encrypt? key.bytes nonce.bytes payload
  decrypt? key nonce body := Aead.decrypt? key.bytes nonce.bytes body
  tag key message := Hmac.tag key.bytes message
  length_tag _ _ := Hmac.length_tag _ _

end Suite

end ObjectVault
