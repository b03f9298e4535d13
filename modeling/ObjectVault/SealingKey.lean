import ObjectVault.Error

/-!
# Sealing keys

Objects are sealed under 32-byte keys: private ones under the master key, which the caller
supplies, public ones under a fixed key that keeps nothing secret.
-/

namespace ObjectVault

/-- A 32-byte key. -/
structure SealingKey where
  bytes : Bytes
  length_eq : bytes.length = 32
  deriving DecidableEq, Repr

namespace SealingKey

/-- The size of a key in bytes. -/
def size : Nat := 32

/-- A key from bytes of the right number. -/
def ofBytes (bytes : Bytes) : Except VaultError SealingKey :=
  if fits : bytes.length = 32 then .ok ⟨bytes, fits⟩
  else .error (.invalidKeyLength size bytes.length)

/-- The key of public objects. It keeps them from being readable at a glance and apart from
private ones, and is no secret. -/
def obfuscation : SealingKey where
  bytes := [
    0x6f, 0xaa, 0x0a, 0xb6, 0x10, 0xc0, 0xa6, 0xe4, 0x07, 0x8b, 0x05, 0x1c, 0xd2, 0x8b, 0xac, 0x2d,
    0xba, 0x5e, 0x14, 0x9c, 0xae, 0x57, 0xfb, 0x04, 0x13, 0x92, 0xc0, 0x84, 0x2a, 0xea, 0xf6, 0xfb]
  length_eq := rfl

/-- The key under which a blob is sealed. -/
def select (isPrivate : Bool) (master : Option SealingKey) : Except VaultError SealingKey :=
  if isPrivate then
    match master with
    | some key => .ok key
    | none => .error .keyNotInitialized
  else .ok obfuscation

/-- The master key in inspection text, which does not tell its bytes. -/
def inspect (_ : SealingKey) : String :=
  Inspect.closed "MasterKey" [("key", Quoted.text "[REDACTED]")]

end SealingKey

end ObjectVault
