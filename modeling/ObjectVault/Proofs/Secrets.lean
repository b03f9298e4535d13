import Mathlib.Data.List.Forall2
import ObjectVault.Proofs.Alike
import ObjectVault.Proofs.Adversity
import ObjectVault.Proofs.BlobKey
import ObjectVault.Proofs.Envelope
import ObjectVault.Proofs.SortedMap

/-!
# Databases that differ in secrets

Two programs that differ in their master key and in the payloads they store (`Twins`) have
databases with the same keys and the same metadata, in which every object can be opened
(`Twins.Entries`). Two such databases in the same adversity answer alike.
-/

namespace ObjectVault

namespace SortedMap

variable {κ ν : Type} [Ord κ] {related : κ × ν → κ × ν → Prop}

/-- Related maps under related keys stay related when related values are put in. -/
theorem forall₂_insert [Std.TransOrd κ]
    (keys : ∀ {one other}, related one other → one.1 = other.1) {first second : SortedMap κ ν}
    (alike : List.Forall₂ related first.entries second.entries) {key : κ} {value another : ν}
    (values : related (key, value) (key, another)) :
    List.Forall₂ related (first.insert key value).entries (second.insert key another).entries := by
  simp only [insert]
  generalize first.entries = left, second.entries = right at alike ⊢
  induction alike with
  | nil => exact .cons values .nil
  | cons heads rest ih =>
    simp only [insertEntry, ← keys heads]
    split
    · exact .cons values (.cons heads rest)
    · exact .cons values rest
    · exact .cons heads ih

/-- Entries that are related one by one are still so when a key is removed. -/
theorem forall₂_erase (keys : ∀ {one other}, related one other → one.1 = other.1)
    {first second : SortedMap κ ν} (alike : List.Forall₂ related first.entries second.entries)
    (key : κ) :
    List.Forall₂ related (first.erase key).entries (second.erase key).entries := by
  simp only [erase, filter]
  refine List.rel_filter (fun one other heads => ?_) alike
  simp only [keys heads]

/-- Values under the same key are related if the entries are. -/
theorem rel_get? [Std.LawfulEqOrd κ] (keys : ∀ {one other}, related one other → one.1 = other.1)
    {first second : SortedMap κ ν} (alike : List.Forall₂ related first.entries second.entries)
    (key : κ) :
    Option.Rel (fun value another => related (key, value) (key, another)) (first.get? key)
      (second.get? key) := by
  simp only [get?]
  generalize first.entries = left, second.entries = right at alike ⊢
  induction alike with
  | nil => exact .none
  | @cons one other _ _ heads rest ih =>
    simp only [List.find?_cons, ← keys heads]
    cases same : compare key one.1 == .eq with
    | false => exact ih
    | true =>
      have isKey : key = one.1 := Std.LawfulEqOrd.eq_of_compare (by simpa using same)
      obtain ⟨place, value⟩ := one
      obtain ⟨place, another⟩ := other
      cases keys heads
      cases isKey
      exact .some heads

end SortedMap

/-- Two programs that use the same cipher suite and one master key each. -/
structure Twins (suite : Suite) where
  undoes : suite.Undoes
  first : SealingKey
  second : SealingKey

namespace Twins

variable {suite : Suite} (twins : Twins suite)

/-- Whether neither program has set its master key, or both have. -/
inductive Keys : Option SealingKey → Option SealingKey → Prop where
  | unset : Keys none none
  | set : Keys (some twins.first) (some twins.second)

/-- Whether two envelopes are opened with the key that each program uses for objects of a
privacy. -/
structure Envelopes (isPrivate : Bool) (one other : Bytes) : Prop where
  first : ∃ payload, Envelope.decrypt suite (some twins.first) ⟨isPrivate, one⟩ =
    .ok ⟨isPrivate, payload⟩
  second : ∃ payload, Envelope.decrypt suite (some twins.second) ⟨isPrivate, other⟩ =
    .ok ⟨isPrivate, payload⟩

/-- Whether two values differ only as the programs do, if they are stored under a key. -/
inductive Values (key : Bytes) : Bytes → Bytes → Prop where
  | same {value} (plain : BlobKey.decode? key = none) : Values key value value
  /-- An internal blob may be anything. -/
  | internal {number one other} (blob : BlobKey.decode? key = some (.internal, number)) :
      Values key one other
  | object {isPrivate number one other}
      (blob : BlobKey.decode? key = some (.ofPrivacy isPrivate, number))
      (opened : twins.Envelopes isPrivate one other) : Values key one other

/-- Whether two entries have the same key and values that differ only as the programs do. -/
structure Entries (one other : Bytes × Bytes) : Prop where
  key : one.1 = other.1
  values : twins.Values one.1 one.2 other.2

/-- Whether the worlds of two databases differ only as the programs do. -/
structure Worlds (one other : World Storage) : Prop where
  disk : one.disk = other.disk
  attempts : one.engine.attempts = other.engine.attempts
  calls : one.engine.history.record.length = other.engine.history.record.length
  entries : List.Forall₂ twins.Entries one.engine.history.table.entries
    other.engine.history.table.entries

variable {twins}

/-- The values under a key that is no blob's are the same. -/
theorem Values.eq {key one other : Bytes} (values : twins.Values key one other)
    (plain : BlobKey.decode? key = none) : one = other := by
  cases values with
  | same => rfl
  | internal blob | object blob =>
    rw [plain] at blob
    cases blob

/-- The values under the key of an object can be opened. -/
theorem Values.opened {key one other : Bytes} (values : twins.Values key one other)
    {isPrivate : Bool} {number : UInt32}
    (blob : BlobKey.decode? key = some (.ofPrivacy isPrivate, number)) :
    twins.Envelopes isPrivate one other := by
  cases values with
  | same plain =>
    rw [plain] at blob
    cases blob
  | internal internal =>
    rw [internal] at blob
    cases isPrivate <;> cases blob
  | @object alsoPrivate _ _ _ object opened =>
    rw [object] at blob
    cases isPrivate <;> cases alsoPrivate <;> cases blob <;> exact opened

/-- Both programs have set their master key, or neither has. -/
theorem Keys.isNone {one other : Option SealingKey} (keys : twins.Keys one other) :
    one.isNone = other.isNone := by
  cases keys <;> rfl

/-- The programs seal objects under related keys, or neither does. -/
theorem Keys.select {one other : Option SealingKey} (keys : twins.Keys one other)
    (isPrivate : Bool) :
    (∃ error, SealingKey.select isPrivate one = .error error ∧
        SealingKey.select isPrivate other = .error error) ∨
      ∃ key another, SealingKey.select isPrivate one = .ok key ∧
        SealingKey.select isPrivate (some twins.first) = .ok key ∧
        SealingKey.select isPrivate other = .ok another ∧
        SealingKey.select isPrivate (some twins.second) = .ok another := by
  cases keys with
  | unset =>
    cases isPrivate with
    | true => exact .inl ⟨_, rfl, rfl⟩
    | false => exact .inr ⟨_, _, rfl, rfl, rfl, rfl⟩
  | set =>
    cases isPrivate with
    | true => exact .inr ⟨_, _, rfl, rfl, rfl, rfl⟩
    | false => exact .inr ⟨_, _, rfl, rfl, rfl, rfl⟩

/-- Payloads that the cipher takes are sealed by both programs or by neither, in envelopes that they
can open. -/
theorem Keys.encrypt {one other : Option SealingKey} (keys : twins.Keys one other)
    {isPrivate : Bool} {payload another : Bytes} (accepts : suite.Accepts payload)
    (alsoAccepts : suite.Accepts another) (nonces others : NonceSupply) :
    AlikeResults (fun blob sibling => twins.Envelopes isPrivate blob.payload sibling.payload)
      (Envelope.encrypt suite one nonces ⟨isPrivate, payload⟩).1
      (Envelope.encrypt suite other others ⟨isPrivate, another⟩).1 := by
  rcases keys.select isPrivate with
    ⟨error, fails, alsoFails⟩ | ⟨key, sibling, selected, ofFirst, alsoSelected, ofSecond⟩
  · simp only [Envelope.encrypt, fails, alsoFails]
    exact .error error
  · let blob : Blob := ⟨isPrivate, payload⟩
    let sister : Blob := ⟨isPrivate, another⟩
    obtain ⟨envelope, written, sealing⟩ :=
      Envelope.encrypt_of_accepts (show suite.Accepts blob.payload from accepts) selected nonces
    obtain ⟨twin, alsoWritten, alsoSealing⟩ := Envelope.encrypt_of_accepts
      (show suite.Accepts sister.payload from alsoAccepts) alsoSelected others
    rw [sealing, alsoSealing]
    exact .ok ⟨⟨payload, Envelope.decrypt_write twins.undoes ofFirst written⟩,
      ⟨another, Envelope.decrypt_write twins.undoes ofSecond alsoWritten⟩⟩

section Database

variable {adversity : Adversity} {one other : World Storage}

/-- A call has the same fate in both worlds. -/
theorem Worlds.fateIn (worlds : twins.Worlds one other) (kind : Scripted.CallKind) (key : Bytes) :
    adversity.fateIn one kind key = adversity.fateIn other kind key := by
  rw [Adversity.fateIn, Adversity.fateIn, worlds.calls]

/-- Worlds differ only as the programs do after calls that leave such tables. -/
theorem Worlds.note (worlds : twins.Worlds one other) {exchange another : Exchange}
    (entries : List.Forall₂ twins.Entries
      (exchange.after one.engine.history.table).entries
      (another.after other.engine.history.table).entries) :
    twins.Worlds (Adversity.note one exchange) (Adversity.note other another) where
  disk := worlds.disk
  attempts := worlds.attempts
  calls := by simp [Adversity.note, History.making, Exchange.entries, worlds.calls]
  entries := entries

/-- Two databases answer alike when they are read. -/
theorem alike_get (key : Bytes) :
    Action.Alike twins.Worlds (AlikeResults (Option.Rel (twins.Values key)))
      (Action.call (adversity.backend.get key)) (Action.call (adversity.backend.get key)) := by
  refine Action.alike_call fun one other worlds => ?_
  have found := SortedMap.rel_get? Entries.key worlds.entries key
  simp only [Adversity.backend, worlds.fateIn]
  refine ⟨?_, worlds.note worlds.entries⟩
  cases adversity.fateIn other .get key with
  | works =>
    refine .done ?_
    generalize one.engine.history.table.get? key = value,
      other.engine.history.table.get? key = another at found ⊢
    cases found with
    | none => exact .none
    | some entries => exact .some entries.values
  | fails error visited => exact .failed error
  | panics visited => exact .panicked

/-- They answer alike when values are stored that differ only as the programs do. -/
theorem alike_put {key value another : Bytes} (values : twins.Values key value another)
    (durability : Durability) :
    Action.Alike twins.Worlds (AlikeResults Eq)
      (Action.call (adversity.backend.put key value durability))
      (Action.call (adversity.backend.put key another durability)) := by
  refine Action.alike_call fun one other worlds => ?_
  simp only [Adversity.backend, worlds.fateIn]
  cases adversity.fateIn other .put key with
  | works =>
    exact ⟨.done rfl, worlds.note (SortedMap.forall₂_insert Entries.key worlds.entries
      ⟨rfl, values⟩)⟩
  | fails error visited => exact ⟨.failed error, worlds.note worlds.entries⟩
  | panics visited => exact ⟨.panicked, worlds.note worlds.entries⟩

/-- They answer alike when a key is removed. -/
theorem alike_delete (key : Bytes) (durability : Durability) :
    Action.Alike twins.Worlds (AlikeResults Eq)
      (Action.call (adversity.backend.delete key durability))
      (Action.call (adversity.backend.delete key durability)) := by
  refine Action.alike_call fun one other worlds => ?_
  simp only [Adversity.backend, worlds.fateIn]
  cases adversity.fateIn other .delete key with
  | works =>
    exact ⟨.done rfl, worlds.note (SortedMap.forall₂_erase Entries.key worlds.entries key)⟩
  | fails error visited => exact ⟨.failed error, worlds.note worlds.entries⟩
  | panics visited => exact ⟨.panicked, worlds.note worlds.entries⟩

variable (twins) in
/-- Whether two scans end alike and show entries that differ only as the programs do. -/
structure Scans (one other : Scan) : Prop where
  ending : one.ending = other.ending
  visited : List.Forall₂ twins.Entries one.visited other.visited

/-- They show alike entries when they are scanned. -/
theorem alike_scan :
    Action.Alike twins.Worlds twins.Scans (Action.step adversity.backend.scan)
      (Action.step adversity.backend.scan) := by
  refine Action.alike_step fun one other worlds => ?_
  simp only [Adversity.backend, worlds.fateIn]
  refine ⟨?_, worlds.note worlds.entries⟩
  cases adversity.fateIn other .scan [] with
  | works => exact ⟨rfl, worlds.entries⟩
  | fails error visited => exact ⟨rfl, List.forall₂_take visited worlds.entries⟩
  | panics visited => exact ⟨rfl, List.forall₂_take visited worlds.entries⟩

end Database

end Twins

end ObjectVault
