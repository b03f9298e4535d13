import ObjectVault.Bytes

/-!
# The Poly1305 one-time authenticator

The message is read as the coefficients of a polynomial, which is evaluated modulo
`2 ^ 130 - 5` at a point taken from the one-time key; the other half of the key is added.
-/

namespace ObjectVault.Poly1305

/-- The modulus of the evaluation. -/
def modulus : Nat := 1 <<< 130 - 5

/-- The point of evaluation: sixteen bytes of which 22 bits are cleared. -/
def clamp (bytes : Bytes) : Nat :=
  Bytes.toNatLittle bytes &&& 0x0ffffffc0ffffffc0ffffffc0fffffff

/-- The coefficient of a piece of the message: its bytes, then a one. -/
def coefficient (piece : Bytes) : Nat := Bytes.toNatLittle (piece ++ [1])

/-- The value of the polynomial whose coefficients are the pieces of the message. -/
def evaluate (point : Nat) (message : Bytes) : Nat :=
  (Bytes.pieces 16 message).foldl (fun sum piece => (sum + coefficient piece) * point % modulus) 0

/-- The sixteen-byte tag of a message under a one-time key of 32 bytes. -/
def tag (key message : Bytes) : Bytes :=
  Bytes.ofNatLittle 16 (evaluate (clamp (key.take 16)) message + Bytes.toNatLittle (key.drop 16))

@[simp] theorem length_tag (key message : Bytes) : (tag key message).length = 16 := by
  simp [tag]

end ObjectVault.Poly1305
