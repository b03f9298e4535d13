import ObjectVault.Proofs.Refinement

/-!
# Vaults that serve

How a vault is used whose database works: an action on a vault that stands to a plain one
(`Footing.Stands`) has one ending and leaves one plain vault (`Footing.Serves`), whatever else is in
the vault. The calls of a vault serve as those of a plain vault do (`Footing.serves_perform`), and
what an action does that is made of calls is put together with `Footing.Serves.bind`. A payload that
the cipher refuses is not one of those in use, and costs a handle (`Footing.serves_insert_refused`).
-/

namespace ObjectVault

open Exchange

namespace Plain

variable {circumstances : Circumstances} {plain : Plain} {table : Table} {memory after : Memory}
  {exchanges : List Exchange}

/-- What the cipher refuses is not stored, whatever is known. -/
theorem updating_of_refuses {handle : Handle} {blob : Blob} {before : Memory}
    {ending : Ending Unit}
    (updating : Session.Updating circumstances.suite handle blob before exchanges ending after)
    (keyed : plain.Keyed blob.isPrivate) (masterKey : before.masterKey = plain.masterKey)
    (known : before.categories.get? handle = some (.ofPrivacy blob.isPrivate))
    (refuses : circumstances.suite.Refuses blob.payload) :
    ending = .failed (.encryption "aead::Error") ∧
      after = { before with nonces := before.nonces.advance } ∧ exchanges = [] := by
  have category : before.categoryOf handle = .ofPrivacy blob.isPrivate := by
    simp [Memory.categoryOf, known]
  have refused := Envelope.encrypt_of_refuses refuses (select_sealingKey keyed) before.nonces
  rw [← masterKey] at refused
  cases updating with
  | mismatched differs =>
    rw [category, Category.accepts_iff.2 rfl] at differs
    cases differs
  | unsealed fits sealing =>
    rw [refused] at sealing
    cases sealing
    exact ⟨rfl, rfl, rfl⟩
  | written fits sealing =>
    rw [refused] at sealing
    cases sealing

/-- Spends a handle on an object that is not stored. -/
def spend (plain : Plain) : Ending Handle × Plain :=
  if plain.next = Metadata.lastNumber then (.failed .idSpaceExhausted, plain)
  else (.failed (.encryption "aead::Error"), { plain with next := plain.next + 1 })

/-- The handle of an object that the cipher refuses is spent, and forgotten. -/
theorem Mirrors.place_refused (mirrors : Mirrors circumstances plain memory table) {blob : Blob}
    {handle : Handle} {early late : List Exchange} {ending : Ending Unit}
    (keyed : plain.Keyed blob.isPrivate) (refuses : circumstances.suite.Refuses blob.payload)
    (truthful : AllTruthful (early ++ late) table)
    (succeed : ∀ exchange ∈ early ++ late, exchange.Succeeds)
    (allocating : Metadata.Allocating early (.done handle))
    (updating : Session.Updating circumstances.suite handle blob
      (memory.knowing handle (.ofPrivacy blob.isPrivate)) late ending after) :
    ending = .failed (.encryption "aead::Error") ∧
      plain.spend.1 = .failed (.encryption "aead::Error") ∧
      Mirrors circumstances plain.spend.2 (after.without handle)
        (afterAll (early ++ late) table) := by
  have ready := mirrors.storedIn.ready
  rcases allocating.of_succeed ready (allTruthful_append.1 truthful).1
    fun exchange member => succeed exchange (List.mem_append_left _ member) with
    ⟨_, failed, _⟩ | ⟨left, given, rfl⟩
  · cases failed
  cases given
  have known : (memory.knowing ⟨plain.next⟩ (.ofPrivacy blob.isPrivate)).categories.get?
      ⟨plain.next⟩ = some (.ofPrivacy blob.isPrivate) := SortedMap.get?_insert_self _ _ _
  obtain ⟨rfl, rfl, rfl⟩ := updating_of_refuses updating keyed mirrors.masterKey known refuses
  have forgotten := Session.categories_without_knowing (.ofPrivacy blob.isPrivate)
    (Session.get?_next_eq_none ready mirrors.backed)
  rw [spend, if_neg left, List.append_nil, Metadata.afterAll_counting]
  refine ⟨rfl, rfl, mirrors.storedIn.count left, ?_, mirrors.stream, mirrors.masterKey, ?_,
    mirrors.inUse⟩
  · intro other category isKnown
    have before : memory.categories.get? other = some category :=
      (congrArg (SortedMap.get? · other) forgotten).symm.trans isKnown
    exact mirrors.backed.mono (fun _ _ stored => Table.stores_insert_key.2 stored) other category
      before
  · exact forgotten.trans mirrors.known

/-- An object that the cipher refuses is not stored. -/
theorem Mirrors.insert_refused (mirrors : Mirrors circumstances plain memory table) {blob : Blob}
    {ending : Ending Handle} (keyed : plain.Keyed blob.isPrivate)
    (refuses : circumstances.suite.Refuses blob.payload)
    (truthful : AllTruthful exchanges table) (succeed : ∀ exchange ∈ exchanges, exchange.Succeeds)
    (inserting : Session.Inserting circumstances.suite blob memory exchanges ending after) :
    ending = plain.spend.1 ∧
      Mirrors circumstances plain.spend.2 after (afterAll exchanges table) := by
  have ready := mirrors.storedIn.ready
  cases inserting with
  | keyless isPrivate unset =>
    rw [mirrors.masterKey] at unset
    exact absurd ⟨isPrivate, unset⟩ keyed.not_keyless
  | unallocated _ allocating =>
    rcases allocating.of_succeed ready truthful succeed with ⟨last, failed, same⟩ | ⟨_, given, _⟩
    · rw [spend, if_pos last, failed, same]
      exact ⟨rfl, mirrors⟩
    · cases given
  | stoppedEarly _ allocating =>
    rcases allocating.of_succeed ready truthful succeed with ⟨_, failed, _⟩ | ⟨_, given, _⟩
    · cases failed
    · cases given
  | unstored _ allocating updating =>
    obtain ⟨failed, spent, mirrored⟩ :=
      mirrors.place_refused keyed refuses truthful succeed allocating updating
    cases failed
    exact ⟨spent.symm, mirrored⟩
  | stopped _ allocating updating | stored _ allocating updating =>
    obtain ⟨impossible, _⟩ :=
      mirrors.place_refused keyed refuses truthful succeed allocating updating
    cases impossible

/-- To spend a handle never panics. -/
theorem panics_spend (plain : Plain) : plain.spend.1.panics = false := by
  unfold spend
  split <;> rfl

end Plain

/-- What a vault runs on, and what there is to rely on. -/
structure Footing (ω : Type) where
  services : Services ω
  circumstances : Circumstances
  Has : Table → ω → Prop
  suite : services.suite = circumstances.suite
  fair : circumstances.Fair
  /-- The calls of the database work, and it has the table then that they leave. -/
  works : ∀ {table world exchanges later}, Has table world →
    services.backend.Makes world exchanges later →
      AllTruthful exchanges table ∧ (∀ exchange ∈ exchanges, exchange.Succeeds) ∧
        Has (afterAll exchanges table) later

namespace Footing

variable {ω α β : Type} {footing : Footing ω} {before middle after : Plain}

/-- Whether a vault is as a plain vault. -/
structure Stands (footing : Footing ω) (plain : Plain) (vault : Vault ω) : Prop where
  whole : vault.poisoned = false
  mirrors : ∃ table, footing.Has table vault.session.world ∧
    Plain.Mirrors footing.circumstances plain vault.session.memory table

/-- Whether an action on a vault that is as a plain one has an ending and leaves it as another plain
one. -/
def Serves (footing : Footing ω) (action : Action (Vault ω) α) (before : Plain)
    (ending : Ending α) (after : Plain) : Prop :=
  ∀ machine, footing.Stands before machine.state →
    (action.run machine).1 = ending ∧ footing.Stands after (action.run machine).2.state

namespace Serves

theorem pure (value : α) : footing.Serves (Pure.pure value) before (.done value) before :=
  fun _ stands => ⟨rfl, stands⟩

/-- An action goes on after a call that is answered. -/
theorem bind {first : Action (Vault ω) α} {next : α → Action (Vault ω) β} {value : α}
    {ending : Ending β} (early : footing.Serves first before (.done value) middle)
    (late : footing.Serves (next value) middle ending after) :
    footing.Serves (first >>= next) before ending after := by
  intro machine stands
  obtain ⟨answered, stands⟩ := early machine stands
  rw [Action.run_bind]
  generalize first.run machine = outcome at answered stands ⊢
  obtain ⟨_, later⟩ := outcome
  cases answered
  exact late later stands

/-- The value of a call may be converted. -/
theorem map {action : Action (Vault ω) α} {ending : Ending α}
    (serves : footing.Serves action before ending after) (convert : α → β) :
    footing.Serves (action >>= fun value => Pure.pure (convert value)) before (ending.map convert)
      after := by
  intro machine stands
  obtain ⟨rfl, stands⟩ := serves machine stands
  rw [Action.run_bind_pure]
  exact ⟨rfl, stands⟩

/-- A call whose value is only converted has the value from which it is converted. -/
theorem of_map {action : Action (Vault ω) α} {convert : α → β} {ending : Ending α}
    (injective : ∀ {first second : α}, convert first = convert second → first = second)
    (serves : footing.Serves (action >>= fun value => Pure.pure (convert value)) before
      (ending.map convert) after) : footing.Serves action before ending after := by
  intro machine stands
  obtain ⟨same, stands⟩ := serves machine stands
  rw [Action.run_bind_pure] at same stands
  exact ⟨(Ending.map_inj injective).1 same, stands⟩

/-- A call serves as its conduct says. -/
theorem of_conducts {action : Action (Vault ω) α}
    {conduct : Memory → List Exchange → Ending α → Memory → Prop} {ending : Ending α}
    (conducts : Vault.Conducts footing.services.backend action conduct)
    (whole : ending.panics = false)
    (leads : ∀ {memory table exchanges found later},
      Plain.Mirrors footing.circumstances before memory table → AllTruthful exchanges table →
        (∀ exchange ∈ exchanges, exchange.Succeeds) → conduct memory exchanges found later →
          found = ending ∧
            Plain.Mirrors footing.circumstances after later (afterAll exchanges table)) :
    footing.Serves action before ending after := by
  rintro machine ⟨isWhole, table, has, mirrors⟩
  obtain ⟨exchanges, makes, conduct, breaks⟩ := conducts machine isWhole
  obtain ⟨truthful, succeed, hasAfter⟩ := footing.works has makes
  obtain ⟨same, mirrored⟩ := leads mirrors truthful succeed conduct
  exact ⟨same, ⟨by rw [breaks, same, whole], _, hasAfter, mirrored⟩⟩

end Serves

section Calls

variable {plain : Plain}

/-- A call of a vault serves as that of the plain vault does. -/
theorem serves_perform (footing : Footing ω) (plain : Plain) (operation : Vault.Operation)
    (payloads : ∀ payload ∈ operation.payloads, payload ∈ footing.circumstances.payloads)
    (masterKeys : ∀ key ∈ operation.masterKeys, key ∈ footing.circumstances.keys) :
    footing.Serves (Vault.perform footing.services operation) plain (plain.perform operation).1
      (plain.perform operation).2 := by
  refine .of_conducts (Vault.perform_conduct footing.services operation)
    (plain.panics_perform operation) fun mirrors truthful succeed performing => ?_
  rw [footing.suite] at performing
  exact mirrors.perform footing.fair payloads masterKeys truthful succeed performing

/-- A new object of a payload in use is stored as in the plain vault. -/
theorem serves_insert (footing : Footing ω) (plain : Plain) {blob : Blob}
    (used : blob.payload ∈ footing.circumstances.payloads) :
    footing.Serves (Vault.insert footing.services blob) plain (plain.insert blob).1
      (plain.insert blob).2 := by
  refine .of_map Vault.Answer.handle.inj (footing.serves_perform plain (.insert blob) ?_ nofun)
  simpa [Vault.Operation.payloads] using used

/-- A new object that the cipher refuses costs a handle. -/
theorem serves_insert_refused (footing : Footing ω) {plain : Plain} {blob : Blob}
    (keyed : plain.Keyed blob.isPrivate)
    (refuses : footing.services.suite.Refuses blob.payload) :
    footing.Serves (Vault.insert footing.services blob) plain plain.spend.1 plain.spend.2 := by
  refine .of_conducts (Vault.locked_conduct (Session.insert_conduct footing.services blob))
    plain.panics_spend fun mirrors truthful succeed inserting => ?_
  rw [footing.suite] at inserting refuses
  exact mirrors.insert_refused keyed refuses truthful succeed inserting

/-- An object is deleted as in the plain vault. -/
theorem serves_delete (footing : Footing ω) (plain : Plain) (handle : Handle) :
    footing.Serves (Vault.delete footing.services handle) plain (.done ())
      (plain.delete handle) :=
  .of_map (fun _ => rfl) (footing.serves_perform plain (.delete handle) nofun nofun)

/-- All objects are deleted as in the plain vault. -/
theorem serves_deleteAll (footing : Footing ω) (plain : Plain) :
    footing.Serves (Vault.deleteAll footing.services) plain (.done ())
      { plain with objects := ∅, known := ∅ } :=
  .of_map (fun _ => rfl) (footing.serves_perform plain .deleteAll nofun nofun)

/-- The public objects are loaded as in the plain vault. -/
theorem serves_loadPublic (footing : Footing ω) (plain : Plain) :
    footing.Serves (Vault.loadPublic footing.services) plain (.done (plain.load false).1)
      (plain.load false).2 :=
  .of_map Vault.Answer.objects.inj (footing.serves_perform plain .loadPublic nofun nofun)

/-- The private objects are loaded as in the plain vault if there is a master key. -/
theorem serves_loadPrivate (footing : Footing ω) {plain : Plain} (keyed : plain.masterKey ≠ none) :
    footing.Serves (Vault.loadPrivate footing.services) plain (.done (plain.load true).1)
      (plain.load true).2 := by
  have serves := footing.serves_perform plain .loadPrivate nofun nofun
  simp only [Plain.perform, if_neg keyed] at serves
  exact .of_map Vault.Answer.objects.inj serves

/-- An internal blob is read as in the plain vault. -/
theorem serves_getInternal (footing : Footing ω) (plain : Plain) (number : UInt32) :
    footing.Serves (Vault.getInternal footing.services number) plain
      (.done (plain.internal.get? number)) plain :=
  .of_map Vault.Answer.internal.inj (footing.serves_perform plain (.getInternal number) nofun nofun)

/-- An internal blob is stored as in the plain vault. -/
theorem serves_setInternal (footing : Footing ω) (plain : Plain) (number : UInt32)
    (value : Bytes) :
    footing.Serves (Vault.setInternal footing.services number value) plain (.done ())
      { plain with internal := plain.internal.insert number value } :=
  .of_map (fun _ => rfl) (footing.serves_perform plain (.setInternal number value) nofun nofun)

/-- Whether there is a master key is told as in the plain vault. -/
theorem serves_hasMasterKey (footing : Footing ω) (plain : Plain) :
    footing.Serves Vault.hasMasterKey plain (.done plain.masterKey.isSome) plain :=
  .of_map Vault.Answer.truth.inj (footing.serves_perform plain .hasMasterKey nofun nofun)

/-- The version of the format is the one that is written. -/
theorem serves_formatVersion (footing : Footing ω) (plain : Plain) :
    footing.Serves (Vault.formatVersion footing.services) plain (.done Metadata.formatVersion)
      plain :=
  .of_map Vault.Answer.number.inj (footing.serves_perform plain .formatVersion nofun nofun)

end Calls

end Footing

end ObjectVault
