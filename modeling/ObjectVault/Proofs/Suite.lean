import ObjectVault.Suite

/-!
# Laws of cipher suites

What a vault needs of its cipher: that it undoes itself (`Suite.Undoes`) and takes the payloads in
use (`Suite.Accepts`). The standard suite undoes itself, as masking twice is not masking at all,
and takes every payload for which there is keystream. It also decrypts nothing but what it encrypts
(`Suite.Exact`), as the tag is the same function of the masked bytes on both ways.
-/

namespace ObjectVault

namespace Bytes

/-- To mask bytes twice with the same long enough mask restores them. -/
theorem xor_xor_cancel {bytes mask : Bytes} (enough : bytes.length ≤ mask.length) :
    xor (xor bytes mask) mask = bytes := by
  induction bytes generalizing mask with
  | nil => rfl
  | cons byte rest ih =>
    cases mask with
    | nil => cases enough
    | cons first more =>
      have tail := ih (Nat.le_of_succ_le_succ enough)
      simp only [xor, List.zipWith_cons_cons] at tail ⊢
      rw [tail, UInt8.xor_assoc, UInt8.xor_self, UInt8.xor_zero]

end Bytes

namespace Aead

theorem length_masked (key nonce payload : Bytes) :
    (masked key nonce payload).length = payload.length := by
  simp only [masked, Bytes.length_xor, ChaCha20.length_keystream]
  omega

/-- To mask a payload twice restores it. -/
theorem masked_masked (key nonce payload : Bytes) :
    masked key nonce (masked key nonce payload) = payload := by
  have same := length_masked key nonce payload
  simp only [masked] at same ⊢
  rw [same]
  apply Bytes.xor_xor_cancel
  rw [ChaCha20.length_keystream]
  omega

theorem length_tag (key nonce body : Bytes) : (tag key nonce body).length = 16 := by
  simp [tag]

/-- What was encrypted is decrypted to the payload. -/
theorem decrypt?_of_encrypt? {key nonce payload bytes : Bytes}
    (encrypted : encrypt? key nonce payload = some bytes) :
    decrypt? key nonce bytes = some payload := by
  unfold encrypt? at encrypted
  split at encrypted
  · next small =>
    have undone := masked_masked key nonce payload
    rw [← length_masked key nonce payload] at small
    simp only [Option.some.injEq] at encrypted
    generalize masked key nonce payload = body at encrypted small undone
    subst encrypted
    have tagged := length_tag key nonce body
    have long : ¬ (body ++ tag key nonce body).length < 16 := by
      rw [List.length_append]
      omega
    have front : (body ++ tag key nonce body).length - 16 = body.length := by
      rw [List.length_append]
      omega
    simp only [decrypt?, if_neg long, front, List.take_left, List.drop_left, small, and_self,
      if_true, undone]
  · cases encrypted

/-- What is decrypted to a payload is what the payload is encrypted to. -/
theorem encrypt?_of_decrypt? {key nonce payload bytes : Bytes}
    (decrypted : decrypt? key nonce bytes = some payload) :
    encrypt? key nonce payload = some bytes := by
  unfold decrypt? at decrypted
  split at decrypted
  · cases decrypted
  · simp only at decrypted
    split at decrypted
    · next authentic =>
      obtain ⟨small, tagged⟩ := authentic
      cases decrypted
      simp only [encrypt?, length_masked, if_pos small, masked_masked]
      rw [← tagged, List.take_append_drop]
    · cases decrypted

/-- To encrypt a payload adds the sixteen bytes of the tag. -/
theorem length_of_encrypt? {key nonce payload bytes : Bytes}
    (encrypted : encrypt? key nonce payload = some bytes) :
    bytes.length = payload.length + 16 := by
  unfold encrypt? at encrypted
  split at encrypted
  · cases encrypted
    rw [List.length_append, length_masked, length_tag]
  · cases encrypted

end Aead

namespace Suite

/-- Whether every payload that is encrypted is decrypted again. -/
def Undoes (suite : Suite) : Prop :=
  ∀ key nonce payload body, suite.encrypt? key nonce payload = some body →
    suite.decrypt? key nonce body = some payload

/-- Whether a payload is decrypted from exactly what it is encrypted to. -/
def Exact (suite : Suite) : Prop :=
  ∀ key nonce payload body,
    suite.decrypt? key nonce body = some payload ↔ suite.encrypt? key nonce payload = some body

/-- Whether a payload is encrypted, whatever the key and the nonce. -/
def Accepts (suite : Suite) (payload : Bytes) : Prop :=
  ∀ key nonce, ∃ body, suite.encrypt? key nonce payload = some body

/-- Whether a payload is not encrypted, whatever the key and the nonce. -/
def Refuses (suite : Suite) (payload : Bytes) : Prop :=
  ∀ key nonce, suite.encrypt? key nonce payload = none

/-- The standard suite decrypts what it has encrypted. -/
theorem undoes_standard : standard.Undoes :=
  fun _ _ _ _ encrypted => Aead.decrypt?_of_encrypt? encrypted

/-- It decrypts nothing else. -/
theorem exact_standard : standard.Exact :=
  fun _ _ _ _ => ⟨Aead.encrypt?_of_decrypt?, Aead.decrypt?_of_encrypt?⟩

/-- It takes every payload that is not too long. -/
theorem accepts_standard {payload : Bytes} (small : Aead.fits payload.length = true) :
    standard.Accepts payload := by
  intro key nonce
  exact ⟨_, if_pos small⟩

/-- It takes no other one. -/
theorem refuses_standard {payload : Bytes} (large : Aead.fits payload.length = false) :
    standard.Refuses payload :=
  fun _ _ => if_neg (by simp [large])

end Suite

end ObjectVault
