import ObjectVault.Envelope
import ObjectVault.Proofs.SealingKey
import ObjectVault.Proofs.Suite

/-!
# Laws of envelopes

An envelope that was written is read back under its key (`read_write`), and is refused under a key
that gives it another digest (`read_write_of_ne`). When an envelope is refused, it is for damage to
it (`isBlobDamage_of_decrypt`).

Reading takes an envelope apart at the places at which writing puts it together, so that nothing is
read but what can be written (`read_eq_ok_iff`). `standard_exact` says so of the suite in use.
-/

namespace ObjectVault.Envelope

/-- What is authenticated in an envelope. -/
def signed (nonce : Nonce) (body : Bytes) : Bytes := version :: (nonce.bytes ++ body)

/-- An envelope is the version, a nonce and what the cipher makes of the payload, and the digest of
them. -/
theorem write_eq_ok_iff {suite : Suite} {key : SealingKey} {nonce : Nonce}
    {payload envelope : Bytes} :
    write suite key nonce payload = .ok envelope ↔
      ∃ body, suite.encrypt? key nonce payload = some body ∧
        envelope = signed nonce body ++ suite.tag key (signed nonce body) := by
  unfold write
  cases suite.encrypt? key nonce payload with
  | none => simp
  | some body =>
    constructor
    · intro written
      cases written
      exact ⟨body, rfl, rfl⟩
    · rintro ⟨other, same, rfl⟩
      cases same
      rfl

/-- A digest at the end is compared with the one of what stands before it. -/
theorem authenticated_append (suite : Suite) (key : SealingKey) (message : Bytes) {tag : Bytes}
    (size : tag.length = digestSize) :
    authenticated suite key (message ++ tag) =
      if suite.tag key message = tag then .ok message else .error (.integrity "MAC mismatch") := by
  have long : ¬ (message ++ tag).length < digestSize := by
    rw [List.length_append]
    omega
  have front : (message ++ tag).length - digestSize = message.length := by
    rw [List.length_append]
    omega
  simp only [authenticated, if_neg long, front, List.take_left, List.drop_left]

/-- What is authentic is a message with its digest. -/
theorem authenticated_eq_ok_iff {suite : Suite} {key : SealingKey} {envelope message : Bytes} :
    authenticated suite key envelope = .ok message ↔
      envelope = message ++ suite.tag key message := by
  constructor
  · intro authentic
    unfold authenticated at authentic
    split at authentic
    · cases authentic
    · simp only at authentic
      split at authentic
      · next tagged =>
        cases authentic
        rw [tagged, List.take_append_drop]
      · cases authentic
  · rintro rfl
    rw [authenticated_append suite key message (suite.length_tag _ _), if_pos rfl]

theorem decryptBody_append (suite : Suite) (key : SealingKey) (nonce : Nonce) (body : Bytes) :
    decryptBody suite key (nonce.bytes ++ body) =
      match suite.decrypt? key nonce body with
      | some payload => .ok payload
      | none => .error (.decryption "aead::Error") := by
  have size := nonce.length_eq
  have long : 24 ≤ (nonce.bytes ++ body).length := by
    rw [List.length_append]
    omega
  have same (fits : ((nonce.bytes ++ body).take 24).length = 24) :
      (⟨(nonce.bytes ++ body).take 24, fits⟩ : Nonce) = nonce := by
    cases nonce
    simp only [Nonce.mk.injEq]
    exact List.take_left' size
  cases opened : suite.decrypt? key nonce body with
  | none => simp only [decryptBody, dif_pos long, same, List.drop_left' size, opened]
  | some payload => simp only [decryptBody, dif_pos long, same, List.drop_left' size, opened]

/-- A body is decrypted to a payload if it is a nonce and what the cipher makes of the payload. -/
theorem decryptBody_eq_ok_iff {suite : Suite} {key : SealingKey} {body payload : Bytes} :
    decryptBody suite key body = .ok payload ↔
      ∃ (nonce : Nonce) (rest : Bytes), body = nonce.bytes ++ rest ∧
        suite.decrypt? key nonce rest = some payload := by
  constructor
  · intro decrypted
    unfold decryptBody at decrypted
    split at decrypted
    · next long =>
      split at decrypted
      · next opened =>
        cases decrypted
        exact ⟨_, _, (List.take_append_drop 24 body).symm, opened⟩
      · cases decrypted
    · cases decrypted
  · rintro ⟨nonce, rest, rfl, opened⟩
    rw [decryptBody_append, opened]

/-- An envelope that was written is read back under its key. -/
theorem read_write {suite : Suite} (undoes : suite.Undoes) {key : SealingKey} {nonce : Nonce}
    {payload envelope : Bytes} (written : write suite key nonce payload = .ok envelope) :
    read suite key envelope = .ok payload := by
  obtain ⟨body, encrypted, rfl⟩ := write_eq_ok_iff.1 written
  rw [read, authenticated_append suite key _ (suite.length_tag _ _), if_pos rfl]
  simp only [signed, if_true, decryptBody_append, undoes _ _ _ _ encrypted]

/-- An envelope is read if it can be written. -/
theorem read_eq_ok_iff {suite : Suite} (exact : suite.Exact) {key : SealingKey}
    {envelope payload : Bytes} :
    read suite key envelope = .ok payload ↔
      ∃ nonce, write suite key nonce payload = .ok envelope := by
  constructor
  · intro opened
    unfold read at opened
    split at opened
    · cases opened
    · cases opened
    · next found body authentic =>
      split at opened
      · next current =>
        subst current
        obtain ⟨nonce, rest, rfl, decrypted⟩ := decryptBody_eq_ok_iff.1 opened
        refine ⟨nonce, write_eq_ok_iff.2 ⟨rest, (exact _ _ _ _).1 decrypted, ?_⟩⟩
        exact authenticated_eq_ok_iff.1 authentic
      · cases opened
  · rintro ⟨nonce, written⟩
    exact read_write (fun _ _ _ _ => (exact _ _ _ _).2) written

/-- The nonce of an envelope stands behind its first byte. -/
theorem nonce_of_write {suite : Suite} {key : SealingKey} {nonce : Nonce}
    {payload envelope : Bytes} (written : write suite key nonce payload = .ok envelope) :
    (envelope.drop 1).take 24 = nonce.bytes := by
  obtain ⟨body, _, rfl⟩ := write_eq_ok_iff.1 written
  rw [signed, List.cons_append, List.drop_one, List.tail_cons, List.append_assoc,
    List.take_left' nonce.length_eq]

/-- The parts of an envelope that are not the body take 89 bytes. -/
theorem length_signed_append (suite : Suite) (key : SealingKey) (nonce : Nonce) (body : Bytes) :
    (signed nonce body ++ suite.tag key (signed nonce body)).length = body.length + 89 := by
  rw [List.length_append, suite.length_tag, signed, List.length_cons, List.length_append,
    nonce.length_eq]
  omega

/-- An envelope that was written is refused under a key that gives it another digest. -/
theorem read_write_of_ne {suite : Suite} {key other : SealingKey} {nonce : Nonce} {body : Bytes}
    (apart : suite.tag other (signed nonce body) ≠ suite.tag key (signed nonce body)) :
    read suite other (signed nonce body ++ suite.tag key (signed nonce body)) =
      .error (.integrity "MAC mismatch") := by
  rw [read, authenticated_append suite other _ (suite.length_tag _ _), if_neg apart]

/-- An object that was sealed under the key for its privacy is opened. -/
theorem decrypt_write {suite : Suite} (undoes : suite.Undoes) {master : Option SealingKey}
    {isPrivate : Bool} {key : SealingKey} {nonce : Nonce} {payload envelope : Bytes}
    (selected : SealingKey.select isPrivate master = .ok key)
    (written : write suite key nonce payload = .ok envelope) :
    decrypt suite master ⟨isPrivate, envelope⟩ = .ok ⟨isPrivate, payload⟩ := by
  simp only [decrypt, selected, read_write undoes written]
  rfl

/-- A payload that the cipher accepts is sealed under the key for its privacy. -/
theorem encrypt_of_accepts {suite : Suite} {master : Option SealingKey} {blob : Blob}
    {key : SealingKey} (accepts : suite.Accepts blob.payload)
    (selected : SealingKey.select blob.isPrivate master = .ok key) (supply : NonceSupply) :
    ∃ envelope, write suite key supply.next blob.payload = .ok envelope ∧
      encrypt suite master supply blob = (.ok ⟨blob.isPrivate, envelope⟩, supply.advance) := by
  obtain ⟨body, encrypted⟩ := accepts key supply.next
  have written := write_eq_ok_iff.2 ⟨body, encrypted, rfl⟩
  refine ⟨_, written, ?_⟩
  simp only [encrypt, selected, written]
  rfl

/-- A payload that the cipher refuses is not sealed, and a nonce is drawn for it all the same. -/
theorem encrypt_of_refuses {suite : Suite} {master : Option SealingKey} {blob : Blob}
    {key : SealingKey} (refuses : suite.Refuses blob.payload)
    (selected : SealingKey.select blob.isPrivate master = .ok key) (supply : NonceSupply) :
    encrypt suite master supply blob = (.error (.encryption "aead::Error"), supply.advance) := by
  simp only [encrypt, selected, write, refuses key supply.next]
  rfl

/-- A blob is encrypted if there is a key for its privacy, and the cipher takes the payload. -/
theorem encrypt_eq_ok_iff {suite : Suite} {master : Option SealingKey}
    {supply later : NonceSupply} {blob envelope : Blob} :
    encrypt suite master supply blob = (.ok envelope, later) ↔
      ∃ key, SealingKey.select blob.isPrivate master = .ok key ∧
        write suite key supply.next blob.payload = .ok envelope.payload ∧
          envelope.isPrivate = blob.isPrivate ∧ later = supply.advance := by
  unfold encrypt
  cases SealingKey.select blob.isPrivate master with
  | error error => simp
  | ok key =>
    simp only [Except.ok.injEq, exists_eq_left']
    generalize write suite key supply.next blob.payload = written
    cases written with
    | error error => simp [Except.map]
    | ok bytes =>
      obtain ⟨isPrivate, payload⟩ := envelope
      simp [Except.map, eq_comm, and_assoc, and_left_comm]

/-- An envelope is decrypted if there is a key for its privacy, and it can be read under the key. -/
theorem decrypt_eq_ok_iff {suite : Suite} {master : Option SealingKey} {envelope blob : Blob} :
    decrypt suite master envelope = .ok blob ↔
      ∃ key, SealingKey.select envelope.isPrivate master = .ok key ∧
        read suite key envelope.payload = .ok blob.payload ∧
          blob.isPrivate = envelope.isPrivate := by
  unfold decrypt
  cases SealingKey.select envelope.isPrivate master with
  | error error => simp
  | ok key =>
    simp only [Except.ok.injEq, exists_eq_left']
    generalize read suite key envelope.payload = opened
    cases opened with
    | error error => simp [Except.map]
    | ok bytes =>
      obtain ⟨isPrivate, payload⟩ := blob
      simp [Except.map, eq_comm, and_comm]

/-- Whether a suite decrypts exactly the envelopes that it can make. -/
structure Exact (suite : Suite) : Prop where
  /-- An envelope is decrypted to a payload if it is the version, the nonce that stands in it, what
  the cipher makes of the payload with that nonce, and the digest of all of these. -/
  accepted : ∀ {isPrivate master key}, SealingKey.select isPrivate master = .ok key →
    ∀ (envelope payload : Bytes),
      decrypt suite master ⟨isPrivate, envelope⟩ = .ok ⟨isPrivate, payload⟩ ↔
        25 ≤ envelope.length ∧ ∃ (nonce : Nonce) (body : Bytes),
          nonce.bytes = (envelope.drop 1).take 24 ∧
            suite.encrypt? key nonce payload = some body ∧
              envelope = 1 :: (nonce.bytes ++ body) ++
                suite.tag key (1 :: (nonce.bytes ++ body))
  /-- What is encrypted is decrypted to the blob, and is 105 bytes longer than its payload. -/
  opened : ∀ {master supply blob envelope later},
    encrypt suite master supply blob = (.ok envelope, later) →
      decrypt suite master envelope = .ok blob ∧ envelope.isPrivate = blob.isPrivate ∧
        envelope.payload.length = blob.payload.length + 105
  /-- What is decrypted has the privacy of the envelope, and is encrypted to the envelope if the
  nonce in it is drawn again. -/
  resealed : ∀ {master envelope blob}, decrypt suite master envelope = .ok blob →
    blob.isPrivate = envelope.isPrivate ∧
      ∀ supply : NonceSupply, supply.next.bytes = (envelope.payload.drop 1).take 24 →
        encrypt suite master supply blob = (.ok envelope, supply.advance)

/-- XChaCha20-Poly1305 with HMAC-SHA512 decrypts exactly the envelopes that it can make. -/
theorem standard_exact : Exact .standard where
  accepted := by
    intro isPrivate master key selected envelope payload
    rw [decrypt_eq_ok_iff]
    constructor
    · rintro ⟨other, alsoSelected, opened, _⟩
      cases selected.symm.trans alsoSelected
      obtain ⟨nonce, written⟩ := (read_eq_ok_iff Suite.exact_standard).1 opened
      have drawn := nonce_of_write written
      obtain ⟨body, encrypted, rfl⟩ := write_eq_ok_iff.1 written
      refine ⟨?_, nonce, body, drawn.symm, encrypted, rfl⟩
      rw [length_signed_append]
      omega
    · rintro ⟨_, nonce, body, _, encrypted, formed⟩
      have written := write_eq_ok_iff.2 ⟨body, encrypted, formed⟩
      exact ⟨key, selected, (read_eq_ok_iff Suite.exact_standard).2 ⟨nonce, written⟩, rfl⟩
  opened := by
    intro master supply blob envelope later sealing
    obtain ⟨key, selected, written, samePrivacy, _⟩ := encrypt_eq_ok_iff.1 sealing
    refine ⟨?_, samePrivacy, ?_⟩
    · rw [← samePrivacy] at selected
      exact decrypt_eq_ok_iff.2
        ⟨key, selected, read_write Suite.undoes_standard written, samePrivacy.symm⟩
    · obtain ⟨body, encrypted, formed⟩ := write_eq_ok_iff.1 written
      have size := Aead.length_of_encrypt? encrypted
      rw [formed, length_signed_append, size]
  resealed := by
    intro master envelope blob opening
    obtain ⟨key, selected, opened, samePrivacy⟩ := decrypt_eq_ok_iff.1 opening
    refine ⟨samePrivacy, fun supply drawn => ?_⟩
    obtain ⟨nonce, written⟩ := (read_eq_ok_iff Suite.exact_standard).1 opened
    have same : supply.next = nonce := by
      have bytes := drawn.trans (nonce_of_write written)
      cases supplied : supply.next with
      | mk found length_eq =>
        rw [supplied] at bytes
        cases nonce
        cases bytes
        rfl
    rw [← same] at written
    rw [← samePrivacy] at selected
    exact encrypt_eq_ok_iff.2 ⟨key, selected, written, samePrivacy.symm, rfl⟩

/-- What the check of the digest refuses is damaged. -/
theorem isBlobDamage_of_authenticated {suite : Suite} {key : SealingKey} {envelope : Bytes}
    {error : VaultError} (refused : authenticated suite key envelope = .error error) :
    error.isBlobDamage = true := by
  simp only [authenticated] at refused
  split at refused
  · cases refused
    rfl
  · split at refused
    · cases refused
    · cases refused
      rfl

/-- What the cipher refuses is damaged. -/
theorem isBlobDamage_of_decryptBody {suite : Suite} {key : SealingKey} {body : Bytes}
    {error : VaultError} (refused : decryptBody suite key body = .error error) :
    error.isBlobDamage = true := by
  unfold decryptBody at refused
  split at refused
  · split at refused
    · cases refused
    · cases refused
      rfl
  · cases refused
    rfl

/-- An envelope is refused only for damage to it. -/
theorem isBlobDamage_of_read {suite : Suite} {key : SealingKey} {envelope : Bytes}
    {error : VaultError} (refused : read suite key envelope = .error error) :
    error.isBlobDamage = true := by
  unfold read at refused
  split at refused
  · next unauthentic =>
    cases refused
    exact isBlobDamage_of_authenticated unauthentic
  · cases refused
    rfl
  · split at refused
    · exact isBlobDamage_of_decryptBody refused
    · cases refused
      rfl

/-- With the key that it needs, a blob is refused only for damage to it. -/
theorem isBlobDamage_of_decrypt {suite : Suite} {master : Option SealingKey} {blob : Blob}
    {error : VaultError} (keyed : blob.isPrivate = true → master.isSome)
    (refused : decrypt suite master blob = .error error) : error.isBlobDamage = true := by
  obtain ⟨key, selected⟩ := SealingKey.exists_select keyed
  simp only [decrypt, selected] at refused
  cases opened : read suite key blob.payload with
  | ok payload =>
    rw [opened] at refused
    cases refused
  | error other =>
    rw [opened] at refused
    cases refused
    exact isBlobDamage_of_read opened

end ObjectVault.Envelope
