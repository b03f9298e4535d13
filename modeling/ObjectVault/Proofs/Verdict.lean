import ObjectVault.Proofs.Envelope

/-!
# The order of the checks on an envelope

An envelope is judged by the first check that it fails. `Verdict` has a case for each way in which
an envelope of any bytes is read, `read_eq_iff` says that there are no others, and
`decrypt_classified` reads off it which blobs get which answer.

The digest is the first thing looked at, so a change of an envelope is noticed by it alone: a change
of the digest always, and a change of what is before it unless the digest is right again.
-/

namespace ObjectVault.Envelope

/-- All of an envelope but its last 64 bytes. -/
def front (envelope : Bytes) : Bytes := envelope.take (envelope.length - digestSize)

/-- The last 64 bytes of an envelope. -/
def digest (envelope : Bytes) : Bytes := envelope.drop (envelope.length - digestSize)

theorem front_append_digest (envelope : Bytes) : front envelope ++ digest envelope = envelope :=
  List.take_append_drop _ _

theorem length_digest {envelope : Bytes} (long : digestSize ≤ envelope.length) :
    (digest envelope).length = digestSize := by
  rw [digest, List.length_drop]
  omega

theorem front_append (message : Bytes) {tag : Bytes} (size : tag.length = digestSize) :
    front (message ++ tag) = message := by
  rw [front, List.length_append, size, Nat.add_sub_cancel, List.take_left]

theorem digest_append (message : Bytes) {tag : Bytes} (size : tag.length = digestSize) :
    digest (message ++ tag) = tag := by
  rw [digest, List.length_append, size, Nat.add_sub_cancel, List.drop_left]

/-- Whether an envelope ends in the digest of what is before it. -/
structure Authentic (suite : Suite) (key : SealingKey) (envelope : Bytes) : Prop where
  long : digestSize ≤ envelope.length
  tagged : digest envelope = suite.tag key (front envelope)

section Authentication

variable {suite : Suite} {key : SealingKey} {envelope : Bytes}

/-- What is too short for a digest is refused. -/
theorem authenticated_of_short (short : envelope.length < digestSize) :
    authenticated suite key envelope = .error (.integrity
      ("envelope of " ++ toString envelope.length ++ " bytes is shorter than its MAC")) :=
  if_pos short

/-- What ends in a wrong digest is refused. -/
theorem authenticated_of_forged (long : digestSize ≤ envelope.length)
    (differs : digest envelope ≠ suite.tag key (front envelope)) :
    authenticated suite key envelope = .error (.integrity "MAC mismatch") := by
  have compared := authenticated_append suite key (front envelope) (length_digest long)
  rwa [front_append_digest, if_neg differs.symm] at compared

/-- What is authentic passes, without its digest. -/
theorem Authentic.authenticated_eq (authentic : Authentic suite key envelope) :
    authenticated suite key envelope = .ok (front envelope) := by
  rw [authenticated_eq_ok_iff, ← authentic.tagged, front_append_digest]

/-- What passes as authentic is all of an envelope but its digest. -/
theorem authentic_of_authenticated {message : Bytes}
    (passed : authenticated suite key envelope = .ok message) :
    Authentic suite key envelope ∧ message = front envelope := by
  obtain rfl := authenticated_eq_ok_iff.1 passed
  have size := suite.length_tag key message
  refine ⟨⟨?_, ?_⟩, (front_append message size).symm⟩
  · rw [List.length_append, size]
    exact Nat.le_add_left ..
  · rw [digest_append message size, front_append message size]

end Authentication

/-- What becomes of an envelope that is read, with all that is known of it then. -/
inductive Verdict (suite : Suite) (key : SealingKey) (envelope : Bytes) :
    Except VaultError Bytes → Prop
  | short (short : envelope.length < digestSize) :
      Verdict suite key envelope (.error (.integrity
        ("envelope of " ++ toString envelope.length ++ " bytes is shorter than its MAC")))
  | forged (long : digestSize ≤ envelope.length)
      (differs : digest envelope ≠ suite.tag key (front envelope)) :
      Verdict suite key envelope (.error (.integrity "MAC mismatch"))
  | empty (authentic : Authentic suite key envelope) (nothing : front envelope = []) :
      Verdict suite key envelope (.error (.integrity "envelope has no version header"))
  | foreign {found : UInt8} {body : Bytes} (authentic : Authentic suite key envelope)
      (parts : front envelope = found :: body) (other : found ≠ version) :
      Verdict suite key envelope (.error (.unsupportedVersion found))
  | truncated {body : Bytes} (authentic : Authentic suite key envelope)
      (parts : front envelope = version :: body) (short : body.length < 24) :
      Verdict suite key envelope (.error (.decryption "ciphertext too short"))
  | rejected {nonce : Nonce} {body : Bytes} (authentic : Authentic suite key envelope)
      (parts : front envelope = version :: (nonce.bytes ++ body))
      (refused : suite.decrypt? key nonce body = none) :
      Verdict suite key envelope (.error (.decryption "aead::Error"))
  | opened {nonce : Nonce} {body payload : Bytes} (authentic : Authentic suite key envelope)
      (parts : front envelope = version :: (nonce.bytes ++ body))
      (decrypted : suite.decrypt? key nonce body = some payload) :
      Verdict suite key envelope (.ok payload)

section Reading

variable {suite : Suite} {key : SealingKey} {envelope : Bytes}

/-- Long enough bytes begin with a nonce. -/
theorem exists_nonce_append {bytes : Bytes} (long : 24 ≤ bytes.length) :
    ∃ (nonce : Nonce) (rest : Bytes), bytes = nonce.bytes ++ rest :=
  ⟨⟨bytes.take 24, by simp [long]⟩, bytes.drop 24, (List.take_append_drop 24 bytes).symm⟩

/-- There is a verdict on every envelope. -/
theorem exists_verdict (suite : Suite) (key : SealingKey) (envelope : Bytes) :
    ∃ answer, Verdict suite key envelope answer := by
  by_cases short : envelope.length < digestSize
  · exact ⟨_, .short short⟩
  have long : digestSize ≤ envelope.length := by omega
  by_cases tagged : digest envelope = suite.tag key (front envelope)
  · have authentic : Authentic suite key envelope := ⟨long, tagged⟩
    cases parts : front envelope with
    | nil => exact ⟨_, .empty authentic parts⟩
    | cons found rest =>
      by_cases current : found = version
      · subst current
        by_cases room : 24 ≤ rest.length
        · obtain ⟨nonce, body, rfl⟩ := exists_nonce_append room
          cases decrypted : suite.decrypt? key nonce body with
          | none => exact ⟨_, .rejected authentic parts decrypted⟩
          | some payload => exact ⟨_, .opened authentic parts decrypted⟩
        · exact ⟨_, .truncated authentic parts (by omega)⟩
      · exact ⟨_, .foreign authentic parts current⟩
  · exact ⟨_, .forged long tagged⟩

/-- An envelope is read as the verdict on it says. -/
theorem Verdict.read_eq {answer : Except VaultError Bytes}
    (verdict : Verdict suite key envelope answer) : read suite key envelope = answer := by
  cases verdict with
  | short short => rw [read, authenticated_of_short short]
  | forged long differs => rw [read, authenticated_of_forged long differs]
  | empty authentic nothing => rw [read, authentic.authenticated_eq, nothing]
  | foreign authentic parts other =>
    simp only [read, authentic.authenticated_eq, parts, if_neg other]
  | truncated authentic parts short =>
    simp only [read, authentic.authenticated_eq, parts, if_true, decryptBody,
      dif_neg (Nat.not_le.2 short)]
  | rejected authentic parts refused =>
    simp only [read, authentic.authenticated_eq, parts, if_true, decryptBody_append, refused]
  | opened authentic parts decrypted =>
    simp only [read, authentic.authenticated_eq, parts, if_true, decryptBody_append, decrypted]

/-- So there is no other way to read it. -/
theorem read_eq_iff {answer : Except VaultError Bytes} :
    read suite key envelope = answer ↔ Verdict suite key envelope answer := by
  refine ⟨?_, Verdict.read_eq⟩
  rintro rfl
  obtain ⟨answer, verdict⟩ := exists_verdict suite key envelope
  rwa [verdict.read_eq]

/-- The digest is what is wrong if there is no room for it, if it is another one, or if nothing is
before it. -/
theorem read_integrity_iff :
    (∃ reason, read suite key envelope = .error (.integrity reason)) ↔
      envelope.length < digestSize ∨ digest envelope ≠ suite.tag key (front envelope) ∨
        front envelope = [] := by
  constructor
  · rintro ⟨reason, refused⟩
    cases read_eq_iff.1 refused with
    | short short => exact .inl short
    | forged long differs => exact .inr (.inl differs)
    | empty authentic nothing => exact .inr (.inr nothing)
  · intro unauthentic
    by_cases short : envelope.length < digestSize
    · exact ⟨_, read_eq_iff.2 (.short short)⟩
    have long : digestSize ≤ envelope.length := by omega
    by_cases tagged : digest envelope = suite.tag key (front envelope)
    · have nothing := (unauthentic.resolve_left short).resolve_left (not_not_intro tagged)
      exact ⟨_, read_eq_iff.2 (.empty ⟨long, tagged⟩ nothing)⟩
    · exact ⟨_, read_eq_iff.2 (.forged long tagged)⟩

/-- What is not refused for its integrity is authentic. -/
theorem authentic_of_read
    (unrefused : ∀ reason, read suite key envelope ≠ .error (.integrity reason)) :
    Authentic suite key envelope := by
  have sound := mt read_integrity_iff.2 (not_exists.2 unrefused)
  simp only [not_or, Nat.not_lt, Decidable.not_not] at sound
  exact ⟨sound.1, sound.2.1⟩

/-- The version is what is wrong if the envelope is authentic and starts with another one. -/
theorem read_unsupportedVersion_iff {found : UInt8} :
    read suite key envelope = .error (.unsupportedVersion found) ↔
      Authentic suite key envelope ∧
        ∃ body, front envelope = found :: body ∧ found ≠ version := by
  rw [read_eq_iff]
  constructor
  · intro verdict
    cases verdict with
    | foreign authentic parts other => exact ⟨authentic, _, parts, other⟩
  · rintro ⟨authentic, body, parts, other⟩
    exact .foreign authentic parts other

/-- The cipher is what fails if the envelope is authentic and of the version, and there is no room
for a nonce, or the cipher refuses what follows it. -/
theorem read_decryption_iff :
    (∃ reason, read suite key envelope = .error (.decryption reason)) ↔
      Authentic suite key envelope ∧
        ((∃ body, front envelope = version :: body ∧ body.length < 24) ∨
          ∃ (nonce : Nonce) (body : Bytes), front envelope = version :: (nonce.bytes ++ body) ∧
            suite.decrypt? key nonce body = none) := by
  constructor
  · rintro ⟨reason, failed⟩
    cases read_eq_iff.1 failed with
    | truncated authentic parts short => exact ⟨authentic, .inl ⟨_, parts, short⟩⟩
    | rejected authentic parts refused => exact ⟨authentic, .inr ⟨_, _, parts, refused⟩⟩
  · rintro ⟨authentic, ⟨body, parts, short⟩ | ⟨nonce, body, parts, refused⟩⟩
    · exact ⟨_, read_eq_iff.2 (.truncated authentic parts short)⟩
    · exact ⟨_, read_eq_iff.2 (.rejected authentic parts refused)⟩

/-- An envelope is read if it is authentic and of the version, and the cipher opens what follows the
nonce. -/
theorem read_ok_iff {payload : Bytes} :
    read suite key envelope = .ok payload ↔
      Authentic suite key envelope ∧
        ∃ (nonce : Nonce) (body : Bytes), front envelope = version :: (nonce.bytes ++ body) ∧
          suite.decrypt? key nonce body = some payload := by
  rw [read_eq_iff]
  constructor
  · intro verdict
    cases verdict with
    | opened authentic parts decrypted => exact ⟨authentic, _, _, parts, decrypted⟩
  · rintro ⟨authentic, nonce, body, parts, decrypted⟩
    exact .opened authentic parts decrypted

end Reading

/-- With a key selected, a blob is refused as its envelope is under this key. -/
theorem decrypt_eq_error_iff {suite : Suite} {master : Option SealingKey} {blob : Blob}
    {key : SealingKey} (selected : SealingKey.select blob.isPrivate master = .ok key)
    {error : VaultError} :
    decrypt suite master blob = .error error ↔ read suite key blob.payload = .error error := by
  simp only [decrypt, selected]
  cases read suite key blob.payload with
  | error other => simp [Except.map]
  | ok payload => simp [Except.map]

/-- Whether a blob of any bytes is answered by the first check that it fails. -/
structure Classified (master : Option SealingKey) (blob : Blob) : Prop where
  /-- The first check is for the key. -/
  keyless : decrypt .standard master blob = .error .keyNotInitialized ↔
    blob.isPrivate = true ∧ master = none
  /-- Then the digest is looked for, and compared with that of what is before it, of which there has
  to be something. -/
  integrity : ∀ {key}, SealingKey.select blob.isPrivate master = .ok key →
    ((∃ reason, decrypt .standard master blob = .error (.integrity reason)) ↔
      blob.payload.length < 64 ∨
        digest blob.payload ≠ Hmac.tag key.bytes (front blob.payload) ∨
          front blob.payload = [])
  /-- In what is authentic the first byte has to be the version. -/
  version : ∀ {key}, SealingKey.select blob.isPrivate master = .ok key →
    ∀ found, decrypt .standard master blob = .error (.unsupportedVersion found) ↔
      Authentic .standard key blob.payload ∧
        ∃ body, front blob.payload = found :: body ∧ found ≠ 1
  /-- After the version there have to be a nonce and what the cipher accepts with it. -/
  decryption : ∀ {key}, SealingKey.select blob.isPrivate master = .ok key →
    ((∃ reason, decrypt .standard master blob = .error (.decryption reason)) ↔
      Authentic .standard key blob.payload ∧
        ((∃ body, front blob.payload = 1 :: body ∧ body.length < 24) ∨
          ∃ (nonce : Nonce) (body : Bytes), front blob.payload = 1 :: (nonce.bytes ++ body) ∧
            Aead.decrypt? key.bytes nonce.bytes body = none))
  /-- What passes every check is opened, with the privacy that it had. -/
  success : ∀ {key}, SealingKey.select blob.isPrivate master = .ok key →
    ∀ opened, decrypt .standard master blob = .ok opened ↔
      opened.isPrivate = blob.isPrivate ∧ Authentic .standard key blob.payload ∧
        ∃ (nonce : Nonce) (body : Bytes), front blob.payload = 1 :: (nonce.bytes ++ body) ∧
          Aead.decrypt? key.bytes nonce.bytes body = some opened.payload
  /-- If only the digest of an envelope that is opened is changed, it is refused. -/
  redigested : ∀ {opened}, decrypt .standard master blob = .ok opened →
    ∀ changed : Bytes, changed.length = 64 → changed ≠ digest blob.payload →
      decrypt .standard master ⟨blob.isPrivate, front blob.payload ++ changed⟩ =
        .error (.integrity "MAC mismatch")
  /-- Whatever is put in the place of an envelope passes the check of the digest only if it ends in
  the right one. -/
  passed : ∀ {key}, SealingKey.select blob.isPrivate master = .ok key → ∀ changed message : Bytes,
    authenticated .standard key changed = .ok message →
      64 ≤ changed.length ∧ message = front changed ∧
        digest changed = Hmac.tag key.bytes (front changed)
  /-- So does whatever is not refused for its integrity. -/
  unrefused : ∀ {key}, SealingKey.select blob.isPrivate master = .ok key → ∀ changed : Bytes,
    (∀ reason, decrypt .standard master ⟨blob.isPrivate, changed⟩ ≠ .error (.integrity reason)) →
      64 ≤ changed.length ∧ digest changed = Hmac.tag key.bytes (front changed)

/-- Every blob is answered by the first check that it fails. -/
theorem decrypt_classified (master : Option SealingKey) (blob : Blob) : Classified master blob where
  keyless := by
    cases selected : SealingKey.select blob.isPrivate master with
    | error error =>
      obtain ⟨isPrivate, unset, rfl⟩ := SealingKey.select_eq_error_iff.1 selected
      refine iff_of_true ?_ ⟨isPrivate, unset⟩
      rw [decrypt, selected]
    | ok key =>
      have keyed : ¬ (blob.isPrivate = true ∧ master = none) := by
        rintro ⟨isPrivate, unset⟩
        rw [SealingKey.select_eq_error_iff.2 ⟨isPrivate, unset, rfl⟩] at selected
        cases selected
      rw [decrypt_eq_error_iff selected, read_eq_iff]
      refine iff_of_false (fun verdict => ?_) keyed
      cases verdict
  integrity := by
    intro key selected
    simp only [decrypt_eq_error_iff selected]
    exact read_integrity_iff
  version := by
    intro key selected found
    rw [decrypt_eq_error_iff selected]
    exact read_unsupportedVersion_iff
  decryption := by
    intro key selected
    simp only [decrypt_eq_error_iff selected]
    exact read_decryption_iff
  success := by
    intro key selected opened
    rw [decrypt_eq_ok_iff]
    constructor
    · rintro ⟨other, alsoSelected, passed, samePrivacy⟩
      cases selected.symm.trans alsoSelected
      exact ⟨samePrivacy, read_ok_iff.1 passed⟩
    · rintro ⟨samePrivacy, passes⟩
      exact ⟨key, selected, read_ok_iff.2 passes, samePrivacy⟩
  redigested := by
    intro opened opening changed size differs
    obtain ⟨key, selected, passed, _⟩ := decrypt_eq_ok_iff.1 opening
    obtain ⟨authentic, _⟩ := read_ok_iff.1 passed
    rw [decrypt_eq_error_iff (by exact selected), read_eq_iff]
    refine .forged ?_ ?_
    · rw [List.length_append]
      exact size ▸ Nat.le_add_left ..
    · rwa [digest_append _ size, front_append _ size, ← authentic.tagged]
  passed := by
    intro key selected changed message passes
    obtain ⟨authentic, rfl⟩ := authentic_of_authenticated passes
    exact ⟨authentic.long, rfl, authentic.tagged⟩
  unrefused := by
    intro key selected changed unrefused
    have authentic : Authentic .standard key changed := by
      refine authentic_of_read fun reason refused => unrefused reason ?_
      exact (decrypt_eq_error_iff (by exact selected)).2 refused
    exact ⟨authentic.long, authentic.tagged⟩

end ObjectVault.Envelope
