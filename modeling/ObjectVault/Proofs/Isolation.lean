import ObjectVault.Proofs.Verdict

/-!
# Isolation of public and private envelopes

Whether an object is public or private is not written in its envelope. What keeps the two apart is
the key of the digest: a sealed blob that is passed off as one of the other kind is refused as long
as the key of public objects and the master key give it different digests (`Suite.TellsApart`).

Nothing else is asked of a master key than its size, so it may also be the key of public objects.
Then nothing is kept apart, and a sealed blob is opened as either kind
(`decrypt_relabelled`, `not_isolated_by_obfuscation`).
-/

namespace ObjectVault

/-- Whether two keys, if they differ, give a message different digests. -/
def Suite.TellsApart (suite : Suite) (key other : SealingKey) (message : Bytes) : Prop :=
  key ≠ other → suite.tag key message ≠ suite.tag other message

/-- A private blob passed off as public, or a public one as private. -/
def Blob.relabelled (blob : Blob) : Blob := { blob with isPrivate := !blob.isPrivate }

/-- One of two blobs of either kind is sealed under the master key, and the other one under the key
of public objects. -/
theorem SealingKey.select_not (isPrivate : Bool) (master : SealingKey) :
    (select isPrivate (some master) = .ok master ∧
        select (!isPrivate) (some master) = .ok obfuscation) ∨
      (select isPrivate (some master) = .ok obfuscation ∧
        select (!isPrivate) (some master) = .ok master) := by
  cases isPrivate with
  | true => exact .inl ⟨rfl, rfl⟩
  | false => exact .inr ⟨rfl, rfl⟩

/-- With the key of public objects as the master key there is but one key. -/
theorem SealingKey.select_obfuscation (isPrivate : Bool) :
    select isPrivate (some obfuscation) = .ok obfuscation := by
  cases isPrivate with
  | true => rfl
  | false => rfl

namespace Envelope

/-- What is sealed under one key is refused under another one that gives it another digest. -/
theorem read_of_tag_ne {suite : Suite} {key other : SealingKey} {nonce : Nonce}
    {payload envelope : Bytes} (written : write suite key nonce payload = .ok envelope)
    (differs : suite.tag other (front envelope) ≠ suite.tag key (front envelope)) :
    read suite other envelope = .error (.integrity "MAC mismatch") := by
  obtain ⟨body, _, rfl⟩ := write_eq_ok_iff.1 written
  rw [front_append _ (suite.length_tag _ _)] at differs
  exact read_write_of_ne differs

/-- A sealed blob is opened as what it is. -/
theorem decrypt_of_encrypt {suite : Suite} (undoes : suite.Undoes) {master : Option SealingKey}
    {supply later : NonceSupply} {blob envelope : Blob}
    (sealing : encrypt suite master supply blob = (.ok envelope, later)) :
    decrypt suite master envelope = .ok blob := by
  obtain ⟨key, selected, written, samePrivacy, _⟩ := encrypt_eq_ok_iff.1 sealing
  rw [← samePrivacy] at selected
  exact decrypt_eq_ok_iff.2 ⟨key, selected, read_write undoes written, samePrivacy.symm⟩

section Relabelling

variable {master : SealingKey} {supply later : NonceSupply} {blob envelope : Blob}

/-- If the key of public objects is the master key, a sealed blob is opened as either kind. -/
theorem decrypt_relabelled_of_obfuscation
    (sealing : encrypt .standard (some .obfuscation) supply blob = (.ok envelope, later)) :
    decrypt .standard (some .obfuscation) envelope.relabelled = .ok blob.relabelled := by
  obtain ⟨key, selected, written, samePrivacy, _⟩ := encrypt_eq_ok_iff.1 sealing
  cases selected.symm.trans (SealingKey.select_obfuscation _)
  rw [Blob.relabelled, samePrivacy]
  exact decrypt_write Suite.undoes_standard (SealingKey.select_obfuscation _) written

/-- If the keys of the two kinds have different digests for what is sealed, it is refused. -/
theorem decrypt_relabelled_of_ne
    (sealing : encrypt .standard (some master) supply blob = (.ok envelope, later))
    (differ : Suite.standard.tag master (front envelope.payload) ≠
      Suite.standard.tag .obfuscation (front envelope.payload)) :
    decrypt .standard (some master) envelope.relabelled = .error (.integrity "MAC mismatch") := by
  obtain ⟨key, selected, written, samePrivacy, _⟩ := encrypt_eq_ok_iff.1 sealing
  rw [← samePrivacy] at selected
  -- The keys change places with the label, and the assumption serves in either direction.
  rcases SealingKey.select_not envelope.isPrivate master with ⟨own, other⟩ | ⟨own, other⟩
  · cases selected.symm.trans own
    exact (decrypt_eq_error_iff other).2 (read_of_tag_ne written differ.symm)
  · cases selected.symm.trans own
    exact (decrypt_eq_error_iff other).2 (read_of_tag_ne written differ)

end Relabelling

/-- A sealed blob is opened as what it is. Passed off as one of the other kind it is refused for its
integrity, unless the master key is the key of public objects, with which it is opened as well. -/
theorem decrypt_relabelled {bytes : Bytes} {master : SealingKey}
    (accepted : SealingKey.ofBytes bytes = .ok master) {supply later : NonceSupply}
    {blob envelope : Blob}
    (sealing : encrypt .standard (some master) supply blob = (.ok envelope, later))
    (apart : Suite.standard.TellsApart master .obfuscation (front envelope.payload)) :
    decrypt .standard (some master) envelope = .ok blob ∧
      decrypt .standard (some master) envelope.relabelled =
        if bytes = SealingKey.obfuscation.bytes then .ok blob.relabelled
        else .error (.integrity "MAC mismatch") := by
  obtain ⟨_, rfl⟩ := SealingKey.ofBytes_eq_ok_iff.1 accepted
  refine ⟨decrypt_of_encrypt Suite.undoes_standard sealing, ?_⟩
  split
  · next same =>
    subst same
    exact decrypt_relabelled_of_obfuscation sealing
  · next differs =>
    exact decrypt_relabelled_of_ne sealing
      (apart fun same => differs (congrArg SealingKey.bytes same))

namespace Sample

/-- A master key. -/
def master : SealingKey := .repeated 7

/-- A public blob. -/
def blob : Blob := ⟨false, [1, 2, 3]⟩

/-- The nonces to be drawn. -/
def supply : NonceSupply := .ofList []

/-- The master key has not the digest of the key of public objects for what this one seals. -/
theorem tags_differ_obfuscation :
    ((Suite.standard.encrypt? .obfuscation supply.next blob.payload).all fun body =>
      Suite.standard.tag master (signed supply.next body) !=
        Suite.standard.tag .obfuscation (signed supply.next body)) = true := by
  decide +kernel

theorem accepts_payload : Suite.standard.Accepts blob.payload :=
  Suite.accepts_standard (by decide)

end Sample

/-- A public blob that is passed off as private is refused. -/
theorem decrypt_relabelled_sample :
    ∃ envelope later,
      encrypt .standard (some Sample.master) Sample.supply Sample.blob = (.ok envelope, later) ∧
        decrypt .standard (some Sample.master) envelope = .ok Sample.blob ∧
          decrypt .standard (some Sample.master) envelope.relabelled =
            .error (.integrity "MAC mismatch") := by
  have selected : SealingKey.select Sample.blob.isPrivate (some Sample.master) =
      .ok .obfuscation := rfl
  obtain ⟨sealedBytes, written, sealing⟩ :=
    encrypt_of_accepts Sample.accepts_payload selected Sample.supply
  have accepted : SealingKey.ofBytes Sample.master.bytes = .ok Sample.master :=
    SealingKey.ofBytes_eq_ok_iff.2 ⟨Sample.master.length_eq, rfl⟩
  have differs : Sample.master.bytes ≠ SealingKey.obfuscation.bytes := by decide
  have apart : Suite.standard.TellsApart Sample.master .obfuscation (front sealedBytes) := by
    intro _
    obtain ⟨body, encrypted, rfl⟩ := write_eq_ok_iff.1 written
    have tags := Sample.tags_differ_obfuscation
    rw [encrypted, Option.all_some, bne_iff_ne] at tags
    rw [front_append _ (Suite.standard.length_tag _ _)]
    exact tags
  obtain ⟨opened, refused⟩ := decrypt_relabelled accepted sealing apart
  rw [if_neg differs] at refused
  exact ⟨_, _, sealing, opened, refused⟩

/-- Not every master key keeps the two kinds apart: the key of public objects is taken for one. -/
theorem not_isolated_by_obfuscation :
    ¬ ∀ {bytes : Bytes} {master : SealingKey}, SealingKey.ofBytes bytes = .ok master →
      (∀ message, Suite.standard.TellsApart master .obfuscation message) →
        ∀ {supply later : NonceSupply} {blob envelope : Blob},
          encrypt .standard (some master) supply blob = (.ok envelope, later) →
            ∃ reason, decrypt .standard (some master) envelope.relabelled =
              .error (.integrity reason) := by
  intro isolated
  obtain ⟨sealedBytes, _, sealing⟩ := encrypt_of_accepts Sample.accepts_payload
    (SealingKey.select_obfuscation Sample.blob.isPrivate) Sample.supply
  obtain ⟨reason, refused⟩ := isolated
    (SealingKey.ofBytes_eq_ok_iff.2 ⟨SealingKey.obfuscation.length_eq, rfl⟩)
    (fun _ differs => absurd rfl differs) sealing
  rw [decrypt_relabelled_of_obfuscation sealing] at refused
  cases refused

end Envelope

end ObjectVault
