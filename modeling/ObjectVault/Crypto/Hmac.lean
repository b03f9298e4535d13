import ObjectVault.Crypto.Sha512

/-!
# Message authentication with SHA-512

The keyed digest of a message: the digest under the outer key of the digest under the inner key.
-/

namespace ObjectVault.Hmac

/-- A key brought to the size of a block: a longer one is digested, a shorter one filled up. -/
def blockKey (key : Bytes) : Bytes :=
  let short := if key.length ≤ 128 then key else Sha512.digest key
  short ++ List.replicate (128 - short.length) 0

/-- The 64-byte tag of a message under a key. -/
def tag (key message : Bytes) : Bytes :=
  let inner := (blockKey key).map (· ^^^ 0x36)
  let outer := (blockKey key).map (· ^^^ 0x5c)
  Sha512.digest (outer ++ Sha512.digest (inner ++ message))

@[simp] theorem length_tag (key message : Bytes) : (tag key message).length = 64 := by
  simp [tag]

end ObjectVault.Hmac
