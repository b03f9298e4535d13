import ObjectVault.Proofs.Handles
import ObjectVault.Proofs.Failure

/-!
# Causes of errors

Why a call of an open vault fails, in every situation in which a program can find one whose database
was empty at first (`Causes`). Most errors that the parts of a call could answer are out of the
question there: the counter can always be read if the database answers at all, a private object is
known only while there is a master key, and no stored bytes keep objects from being loaded.
-/

namespace ObjectVault

open Exchange

namespace Exchange

/-- Whether a call of a database fails with an error. -/
def FailsWith (error : BackendError) : Exchange → Prop
  | .get _ reply => reply = .failed error
  | .put _ _ _ reply => reply = .failed error
  | .delete _ _ reply => reply = .failed error
  | .scan seen => seen.ending = .failed error

/-- The exchanges in a list of entries are those that were made. -/
theorem map_exchange_entries (exchanges : List Exchange) (table : Table) :
    (entries exchanges table).map Entry.exchange = exchanges := by
  induction exchanges generalizing table with
  | nil => rfl
  | cons exchange rest ih => simp [entries, ih]

end Exchange

/-- A value that is read first is what the database answers. -/
theorem Backend.Makes.reply_get {ω : Type} {backend : Backend ω} {world later : ω} {key : Bytes}
    {reply : Reply (Option Bytes)} {rest : List Exchange}
    (makes : backend.Makes world (.get key reply :: rest) later) :
    reply = (backend.get key world).1 := by
  cases makes
  rfl

/-- A scan that is made first is what the database shows. -/
theorem Backend.Makes.seen_scan {ω : Type} {backend : Backend ω} {world later : ω} {seen : Scan}
    {rest : List Exchange} (makes : backend.Makes world (.scan seen :: rest) later) :
    seen = (backend.scan world).1 := by
  cases makes
  rfl

/-- Why an object for which there are a key and a handle is not stored. -/
inductive Hindrance (suite : Suite) (payload : Bytes) (exchanges : List Exchange) :
    VaultError → Prop where
  | unsealed {key nonce} (refuses : suite.encrypt? key nonce payload = none) :
      Hindrance suite payload exchanges (.encryption "aead::Error")
  | failing {exchange cause} (member : exchange ∈ exchanges) (fails : exchange.FailsWith cause) :
      Hindrance suite payload exchanges (.backend cause)

/-- What hinders some exchanges hinders them with others in front. -/
theorem Hindrance.append {suite : Suite} {payload : Bytes} {exchanges : List Exchange}
    {error : VaultError} (hindrance : Hindrance suite payload exchanges error)
    (early : List Exchange) : Hindrance suite payload (early ++ exchanges) error := by
  cases hindrance with
  | unsealed refuses => exact .unsealed refuses
  | failing member fails => exact .failing (List.mem_append_right _ member) fails

/-- What hinders a call that has a key and a handle is not the want of either. -/
theorem Hindrance.ne {suite : Suite} {payload : Bytes} {exchanges : List Exchange}
    {error : VaultError} (hindrance : Hindrance suite payload exchanges error) :
    error ≠ .keyNotInitialized ∧ error ≠ .idSpaceExhausted := by
  cases hindrance <;> simp

/-- The category of a new object accepts it. -/
theorem Memory.accepts_knowing (memory : Memory) (handle : Handle) (isPrivate : Bool) :
    ((memory.knowing handle (.ofPrivacy isPrivate)).categoryOf handle).accepts isPrivate =
      true := by
  rw [Category.accepts_iff]
  simp [Memory.categoryOf, Memory.knowing]

namespace Metadata

variable {exchanges : List Exchange} {ending : Ending Handle}

/-- The counter is read before anything else. -/
theorem Allocating.reads (allocating : Allocating exchanges ending) :
    ∃ reply rest, exchanges = .get MetadataItem.nextHandle.key reply :: rest := by
  cases allocating <;> exact ⟨_, _, rfl⟩

/-- No handle is given out if the counter is at the last number. -/
theorem Allocating.exhausted_of_last {rest : List Exchange}
    (allocating : Allocating (.get MetadataItem.nextHandle.key
      (.done (some (Decimal.render lastNumber.toNat))) :: rest) ending) :
    ending = .failed .idSpaceExhausted := by
  have stands : reading .nextHandle (.done (some (Decimal.render lastNumber.toNat))) =
      .done lastNumber := by
    simp [reading, Decimal.parse?_render]
  cases allocating with
  | unread read =>
    rw [stands] at read
    cases read
  | exhausted => rfl
  | counted read left =>
    rw [stands] at read
    cases read
    exact absurd rfl left

/-- If the counter of a database is a number, no handle is given out because it is the last one or
because a call fails. -/
theorem Allocating.error_cases {suite : Suite} {payload : Bytes} {table : Table} {next : UInt32}
    {error : VaultError} (ready : table.Ready next) (truthful : AllTruthful exchanges table)
    (allocating : Allocating exchanges (.failed error)) :
    (error = .idSpaceExhausted ∧ ∃ rest, exchanges = .get MetadataItem.nextHandle.key
        (.done (some (Decimal.render lastNumber.toNat))) :: rest) ∨
      Hindrance suite payload exchanges error := by
  have stands {reply : Reply (Option Bytes)} {value : Option Bytes} (answered : reply = .done value)
      (met : (Exchange.get MetadataItem.nextHandle.key reply).Truthful table) :
      reply = .done (some (Decimal.render next.toNat)) ∧
        reading .nextHandle reply = .done next := by
    subst answered
    have found : value = table.get? MetadataItem.nextHandle.key := met
    rw [found, ready.counter]
    simp [reading, Decimal.parse?_render]
  generalize fails : Ending.failed error = ending at allocating
  cases allocating with
  | @unread reply other read =>
    cases fails
    cases reply with
    | failed cause =>
      cases read
      exact .inr (.failing (.head _) rfl)
    | done value =>
      rw [(stands rfl truthful.1).2] at read
      cases read
    | panicked => cases read
  | stopped => cases fails
  | @exhausted reply read =>
    cases fails
    obtain ⟨raw, answered, _⟩ := eq_done_of_reading read
    obtain ⟨same, number⟩ := stands answered truthful.1
    rw [number] at read
    cases read
    exact .inl ⟨rfl, [], by rw [same]⟩
  | @counted reply number written read left =>
    cases written with
    | failed cause =>
      cases fails
      exact .inr (.failing (.tail _ (.head _)) rfl)
    | done => cases fails
    | panicked => cases fails

end Metadata

namespace Session

variable {suite : Suite} {table : Table} {before after : Memory} {exchanges : List Exchange}
  {error : VaultError}

/-- An object is refused if and only if the category known for its handle does not accept it. -/
theorem Updating.refused_iff {handle : Handle} {blob : Blob} {ending : Ending Unit}
    (keyed : (before.categoryOf handle).accepts blob.isPrivate = true →
      blob.isPrivate = true → before.masterKey.isSome)
    (updating : Updating suite handle blob before exchanges ending after) :
    ending = .failed (.privacyMismatch handle (before.categoryOf handle)) ↔
      (before.categoryOf handle).accepts blob.isPrivate = false := by
  cases updating with
  | mismatched differs => simp [differs]
  | unsealed fits sealing =>
    rw [Envelope.error_of_encrypt (keyed fits) sealing]
    simp [fits]
  | @written _ _ reply fits => cases reply <;> simp [Reply.ending, fits]

/-- An object that is accepted is not stored only because the cipher does not take it or a call
fails. -/
theorem Updating.hindrance {handle : Handle} {blob : Blob}
    (fits : (before.categoryOf handle).accepts blob.isPrivate = true)
    (keyed : blob.isPrivate = true → before.masterKey.isSome)
    (updating : Updating suite handle blob before exchanges (.failed error) after) :
    Hindrance suite blob.payload exchanges error := by
  generalize fails : Ending.failed error = ending at updating
  cases updating with
  | mismatched differs =>
    rw [fits] at differs
    cases differs
  | @unsealed error nonces _ sealing =>
    cases fails
    obtain ⟨key, selected⟩ := SealingKey.exists_select keyed
    simp only [Envelope.encrypt, selected, Envelope.write] at sealing
    cases refuses : suite.encrypt? key before.nonces.next blob.payload with
    | some body =>
      rw [refuses] at sealing
      cases sealing
    | none =>
      rw [refuses] at sealing
      cases sealing
      exact .unsealed refuses
  | @written _ _ reply =>
    cases reply with
    | failed cause =>
      cases fails
      exact .failing (.head _) rfl
    | done => cases fails
    | panicked => cases fails

/-- A private object is not inserted if there is no master key. -/
theorem Inserting.of_keyless {blob : Blob} {ending : Ending Handle}
    (isPrivate : blob.isPrivate = true) (unset : before.masterKey = none)
    (inserting : Inserting suite blob before exchanges ending after) :
    ending = .failed .keyNotInitialized := by
  have unkeyed : ¬ (blob.isPrivate = true → before.masterKey.isSome) := by
    simp [isPrivate, unset]
  cases inserting with
  | keyless => rfl
  | unallocated keyed | stoppedEarly keyed | unstored keyed | stopped keyed | stored keyed =>
    exact absurd keyed unkeyed

/-- What becomes of an insertion for which there is a key depends on the counter first. -/
theorem Inserting.reads {blob : Blob} {ending : Ending Handle}
    (keyed : blob.isPrivate = true → before.masterKey.isSome)
    (inserting : Inserting suite blob before exchanges ending after) :
    ∃ reply rest, exchanges = .get MetadataItem.nextHandle.key reply :: rest := by
  cases inserting with
  | keyless isPrivate unset =>
    rw [unset] at keyed
    cases keyed isPrivate
  | unallocated _ allocating | stoppedEarly _ allocating => exact allocating.reads
  | unstored _ allocating | stopped _ allocating | stored _ allocating =>
    obtain ⟨reply, rest, rfl⟩ := allocating.reads
    exact ⟨reply, _, rfl⟩

/-- No object is stored if the counter is at the last number. -/
theorem Inserting.exhausted_of_last {blob : Blob} {ending : Ending Handle} {rest : List Exchange}
    (keyed : blob.isPrivate = true → before.masterKey.isSome)
    (reads : exchanges = .get MetadataItem.nextHandle.key
      (.done (some (Decimal.render Metadata.lastNumber.toNat))) :: rest)
    (inserting : Inserting suite blob before exchanges ending after) :
    ending = .failed .idSpaceExhausted := by
  have last {early more : List Exchange} {given : Ending Handle}
      (allocating : Metadata.Allocating early given)
      (reads : early ++ more = .get MetadataItem.nextHandle.key
        (.done (some (Decimal.render Metadata.lastNumber.toNat))) :: rest) :
      given = .failed .idSpaceExhausted := by
    obtain ⟨reply, others, rfl⟩ := allocating.reads
    rw [List.cons_append] at reads
    cases (List.cons.inj reads).1
    exact allocating.exhausted_of_last
  cases inserting with
  | keyless isPrivate unset =>
    rw [unset] at keyed
    cases keyed isPrivate
  | unallocated _ allocating =>
    subst reads
    exact Ending.failed.inj (allocating.exhausted_of_last) ▸ rfl
  | stoppedEarly _ allocating =>
    subst reads
    cases allocating.exhausted_of_last
  | unstored _ allocating | stopped _ allocating | stored _ allocating =>
    cases last allocating reads

/-- Why an insertion fails for which there is a key. -/
theorem Inserting.error_cases {blob : Blob} {next : UInt32} (ready : table.Ready next)
    (truthful : AllTruthful exchanges table)
    (keyed : blob.isPrivate = true → before.masterKey.isSome)
    (inserting : Inserting suite blob before exchanges (.failed error) after) :
    (error = .idSpaceExhausted ∧ ∃ rest, exchanges = .get MetadataItem.nextHandle.key
        (.done (some (Decimal.render Metadata.lastNumber.toNat))) :: rest) ∨
      Hindrance suite blob.payload exchanges error := by
  cases inserting with
  | keyless isPrivate unset =>
    rw [unset] at keyed
    cases keyed isPrivate
  | unallocated _ allocating => exact allocating.error_cases ready truthful
  | @unstored early handle _ more _ _ allocating updating =>
    have fits := before.accepts_knowing handle blob.isPrivate
    exact .inr ((updating.hindrance fits keyed).append early)

end Session

namespace Lifetime

/-- How a call of an open vault ends. -/
def ending (setting : Setting) (vault : Vault (World Storage)) (operation : Vault.Operation) :
    Ending Vault.Answer :=
  ((Vault.perform setting.services operation).run ⟨vault, {}⟩).1

/-- The exchanges with the database during a call of an open vault. -/
def exchanges (setting : Setting) (vault : Vault (World Storage)) (operation : Vault.Operation) :
    List Exchange :=
  (take setting (.operate operation) (.opened vault)).entries.map Entry.exchange

/-- What the database answers when the counter of handles is read. -/
def counterReply (setting : Setting) (vault : Vault (World Storage)) : Reply (Option Bytes) :=
  (setting.services.backend.get MetadataItem.nextHandle.key vault.session.world).1

/-- What the database answers when the version of the format is read. -/
def versionReply (setting : Setting) (vault : Vault (World Storage)) : Reply (Option Bytes) :=
  (setting.services.backend.get MetadataItem.formatVersion.key vault.session.world).1

/-- How a scan of the database ends. -/
def scanEnding (setting : Setting) (vault : Vault (World Storage)) : Reply Unit :=
  (setting.services.backend.scan vault.session.world).1.ending

/-- The vault on another table. -/
def withTable (table : Table) (vault : Vault (World Storage)) : Vault (World Storage) :=
  { vault with session.world.engine.history.table := table }

/-- Whether a private object is to be stored and there is no master key. -/
def Keyless (vault : Vault (World Storage)) (blob : Blob) : Prop :=
  blob.isPrivate = true ∧ vault.session.masterKey = none

/-- Why the calls of an open vault fail. -/
structure Causes (setting : Setting) (vault : Vault (World Storage)) : Prop where
  /-- An insertion fails for want of a master key if the object is private and there is none. -/
  keyless : ∀ blob, ending setting vault (.insert blob) = .failed .keyNotInitialized ↔
    Keyless vault blob
  /-- Otherwise it fails for want of a handle if the counter is read as the last number. -/
  exhausted : ∀ blob, ¬ Keyless vault blob →
    (ending setting vault (.insert blob) = .failed .idSpaceExhausted ↔
      counterReply setting vault = .done (some (Bytes.ofText "4294967295")))
  /-- Otherwise it fails because the cipher does not take the payload or a call fails. -/
  insertion : ∀ blob error, ¬ Keyless vault blob →
    counterReply setting vault ≠ .done (some (Bytes.ofText "4294967295")) →
      ending setting vault (.insert blob) = .failed error →
        Hindrance setting.suite blob.payload (exchanges setting vault (.insert blob)) error
  /-- An update is refused if the category known for the handle does not accept the object. -/
  mismatched : ∀ handle blob,
    ending setting vault (.update handle blob) =
        .failed (.privacyMismatch handle (vault.session.categoryOf handle)) ↔
      (vault.session.categoryOf handle).accepts blob.isPrivate = false
  /-- Otherwise it fails because the cipher does not take the payload or a call fails. -/
  update : ∀ handle blob error, (vault.session.categoryOf handle).accepts blob.isPrivate = true →
    ending setting vault (.update handle blob) = .failed error →
      Hindrance setting.suite blob.payload (exchanges setting vault (.update handle blob)) error
  /-- The public objects are loaded if the scan succeeds, whatever is stored. -/
  loadPublic : ∀ table, ∃ objects, ending setting (withTable table vault) .loadPublic =
    (scanEnding setting (withTable table vault)).ending.map fun _ => .objects objects
  /-- So are the private ones if there is a master key. -/
  loadPrivate : vault.session.masterKey.isSome = true → ∀ table, ∃ objects,
    ending setting (withTable table vault) .loadPrivate =
      (scanEnding setting (withTable table vault)).ending.map fun _ => .objects objects
  /-- The version of the format is 1 if it is read. -/
  formatVersion : ending setting vault .formatVersion =
    (versionReply setting vault).ending.map fun _ => .number 1

variable {setting : Setting} {vault : Vault (World Storage)}

/-- A call of a vault whose lock is whole goes in one of the ways of `Performing`, in exchanges with
the database in its world. -/
theorem ending_performing (setting : Setting) (whole : vault.poisoned = false)
    (operation : Vault.Operation) :
    ∃ later after,
      setting.services.backend.Makes vault.session.world (exchanges setting vault operation)
        later ∧
      AllTruthful (exchanges setting vault operation) vault.session.world.history.table ∧
      Vault.Performing setting.suite vault.session.memory operation
        (exchanges setting vault operation) (ending setting vault operation) after := by
  obtain ⟨made, makes, performing, _⟩ :=
    Vault.perform_conduct setting.services operation ⟨vault, {}⟩ whole
  obtain ⟨yields, after⟩ := setting.adversity.makes_backend makes
  have history : (take setting (.operate operation) (.opened vault)).after.history =
      (Situation.opened vault).history.making made := congrArg World.history after
  have same : exchanges setting vault operation = made := by
    rw [exchanges, entries_of_making history, map_exchange_entries]
  rw [same]
  exact ⟨_, _, makes, yields.truthful, performing⟩

theorem render_lastNumber :
    Decimal.render Metadata.lastNumber.toNat = Bytes.ofText "4294967295" := by
  decide

/-- A private object that is not refused for want of a master key has one. -/
theorem keyed_of_not_keyless {blob : Blob} (keyed : ¬ Keyless vault blob)
    (isPrivate : blob.isPrivate = true) : vault.session.memory.masterKey.isSome = true := by
  cases set : vault.session.masterKey with
  | none => exact absurd ⟨isPrivate, set⟩ keyed
  | some key => exact Option.isSome_iff_exists.2 ⟨key, set⟩

section

variable {next : UInt32} (ready : vault.session.world.history.table.Ready next)
  (whole : vault.poisoned = false)

include ready whole

/-- Why an insertion fails for which there is a key. -/
theorem insert_error_cases {blob : Blob} {error : VaultError} (keyed : ¬ Keyless vault blob)
    (fails : ending setting vault (.insert blob) = .failed error) :
    (error = .idSpaceExhausted ∧
        counterReply setting vault = .done (some (Bytes.ofText "4294967295"))) ∨
      Hindrance setting.suite blob.payload (exchanges setting vault (.insert blob)) error := by
  obtain ⟨later, after, makes, truthful, performing⟩ :=
    ending_performing setting whole (.insert blob)
  rw [fails] at performing
  generalize exchanges setting vault (.insert blob) = made at makes truthful performing ⊢
  generalize isFailed : Ending.failed error = ends at performing
  cases performing with
  | insert inserting =>
    rw [Ending.map_eq_failed.1 isFailed.symm] at inserting
    rcases inserting.error_cases ready truthful (keyed_of_not_keyless keyed) with
      ⟨exhausted, rest, rfl⟩ | hindrance
    · rw [render_lastNumber] at makes
      exact .inl ⟨exhausted, makes.reply_get.symm⟩
    · exact .inr hindrance

/-- An insertion fails for want of a master key if the object is private and there is none. -/
theorem insert_keyless_iff (blob : Blob) :
    ending setting vault (.insert blob) = .failed .keyNotInitialized ↔ Keyless vault blob := by
  constructor
  · intro fails
    by_cases keyed : Keyless vault blob
    · exact keyed
    rcases insert_error_cases ready whole keyed fails with ⟨impossible, _⟩ | hindrance
    · cases impossible
    · exact absurd rfl hindrance.ne.1
  · rintro ⟨isPrivate, unset⟩
    obtain ⟨_, _, _, _, performing⟩ := ending_performing setting whole (.insert blob)
    generalize ending setting vault (.insert blob) = ends at performing ⊢
    cases performing with
    | insert inserting => rw [inserting.of_keyless isPrivate unset, Ending.map]

/-- If there is a key, an insertion fails for want of a handle if the counter is read as the last
number. -/
theorem insert_exhausted_iff {blob : Blob} (keyed : ¬ Keyless vault blob) :
    ending setting vault (.insert blob) = .failed .idSpaceExhausted ↔
      counterReply setting vault = .done (some (Bytes.ofText "4294967295")) := by
  constructor
  · intro fails
    rcases insert_error_cases ready whole keyed fails with ⟨_, last⟩ | hindrance
    · exact last
    · exact absurd rfl hindrance.ne.2
  · intro last
    obtain ⟨_, _, makes, _, performing⟩ := ending_performing setting whole (.insert blob)
    generalize exchanges setting vault (.insert blob) = made at makes performing
    generalize ending setting vault (.insert blob) = ends at performing ⊢
    cases performing with
    | insert inserting =>
      have mayBeSealed := keyed_of_not_keyless keyed
      obtain ⟨reply, rest, rfl⟩ := inserting.reads mayBeSealed
      have isLast : reply = .done (some (Decimal.render Metadata.lastNumber.toNat)) := by
        rw [makes.reply_get, render_lastNumber]
        exact last
      rw [inserting.exhausted_of_last mayBeSealed (by rw [isLast]), Ending.map]

end

/-- There is a key for an object if the category known for its handle accepts it. -/
theorem keyed_of_accepts {table : Table} (backed : vault.session.memory.Backed table)
    {handle : Handle} {blob : Blob}
    (fits : (vault.session.memory.categoryOf handle).accepts blob.isPrivate = true)
    (isPrivate : blob.isPrivate = true) : vault.session.memory.masterKey.isSome = true := by
  refine (backed handle _ (Session.known_of_accepts fits)).2.2 ?_
  rw [isPrivate, Category.ofPrivacy]

/-- An update is refused if the category known for the handle does not accept the object. -/
theorem update_refused_iff {table : Table} (backed : vault.session.memory.Backed table)
    (whole : vault.poisoned = false) (handle : Handle) (blob : Blob) :
    ending setting vault (.update handle blob) =
        .failed (.privacyMismatch handle (vault.session.memory.categoryOf handle)) ↔
      (vault.session.memory.categoryOf handle).accepts blob.isPrivate = false := by
  obtain ⟨_, _, _, _, performing⟩ := ending_performing setting whole (.update handle blob)
  generalize ending setting vault (.update handle blob) = ends at performing ⊢
  cases performing with
  | update updating =>
    rw [Ending.map_eq_failed]
    exact updating.refused_iff (keyed_of_accepts backed)

/-- Why an update fails that is not refused. -/
theorem update_error_cases {table : Table} (backed : vault.session.memory.Backed table)
    (whole : vault.poisoned = false) {handle : Handle} {blob : Blob} {error : VaultError}
    (fits : (vault.session.memory.categoryOf handle).accepts blob.isPrivate = true)
    (fails : ending setting vault (.update handle blob) = .failed error) :
    Hindrance setting.suite blob.payload (exchanges setting vault (.update handle blob)) error := by
  obtain ⟨_, _, _, _, performing⟩ := ending_performing setting whole (.update handle blob)
  rw [fails] at performing
  generalize isFailed : Ending.failed error = ends at performing
  cases performing with
  | update updating =>
    rw [Ending.map_eq_failed.1 isFailed.symm] at updating
    exact updating.hindrance fits (keyed_of_accepts backed fits)

/-- Objects are loaded if the scan succeeds. -/
theorem answers_of_loading {category : Category} {made : List Exchange}
    {ends : Ending (SortedMap Handle Blob)} {later : World Storage} {after : Memory}
    (makes : setting.services.backend.Makes vault.session.world made later)
    (loading : Session.Loading setting.suite category vault.session.memory made ends after) :
    ∃ objects, ends.map Vault.Answer.objects =
      (scanEnding setting vault).ending.map fun _ => .objects objects := by
  cases loading with
  | @unscanned seen =>
    rw [scanEnding, ← makes.seen_scan]
    refine ⟨∅, ?_⟩
    cases seen.ending <;> rfl
  | loaded scanned =>
    rw [scanEnding, ← makes.seen_scan, scanned]
    exact ⟨_, rfl⟩

/-- The public objects are loaded if the scan succeeds, whatever is stored. -/
theorem loadPublic_ending (whole : vault.poisoned = false) :
    ∃ objects, ending setting vault .loadPublic =
      (scanEnding setting vault).ending.map fun _ => .objects objects := by
  obtain ⟨_, _, makes, _, performing⟩ := ending_performing setting whole .loadPublic
  generalize exchanges setting vault .loadPublic = made at makes performing
  generalize ending setting vault .loadPublic = ends at performing ⊢
  cases performing with
  | loadPublic loading => exact answers_of_loading makes loading

/-- The private objects are loaded if there is a master key and the scan succeeds, whatever is
stored. -/
theorem loadPrivate_ending (whole : vault.poisoned = false)
    (keyed : vault.session.masterKey.isSome = true) :
    ∃ objects, ending setting vault .loadPrivate =
      (scanEnding setting vault).ending.map fun _ => .objects objects := by
  obtain ⟨_, _, makes, _, performing⟩ := ending_performing setting whole .loadPrivate
  generalize exchanges setting vault .loadPrivate = made at makes performing
  generalize ending setting vault .loadPrivate = ends at performing ⊢
  cases performing with
  | loadPrivate loading =>
    cases loading with
    | keyless unset =>
      have none : vault.session.masterKey = none := unset
      rw [none] at keyed
      cases keyed
    | keyed _ loading => exact answers_of_loading makes loading

/-- The version of the format is 1 if it is read. -/
theorem formatVersion_ending {next : UInt32}
    (ready : vault.session.world.history.table.Ready next) (whole : vault.poisoned = false) :
    ending setting vault .formatVersion =
      (versionReply setting vault).ending.map fun _ => .number 1 := by
  obtain ⟨_, _, makes, truthful, performing⟩ := ending_performing setting whole .formatVersion
  generalize exchanges setting vault .formatVersion = made at makes truthful performing
  generalize ending setting vault .formatVersion = ends at performing ⊢
  cases performing with
  | @formatVersion reply =>
    rw [versionReply, ← makes.reply_get]
    cases reply with
    | done value =>
      have found : value = _ := truthful.1
      rw [found, ready.version]
      rfl
    | failed error => rfl
    | panicked => rfl

/-- In every situation in which a program can find a vault that is open and whose lock is whole, its
calls fail for these causes only. -/
theorem causes_of_reachable (setting : Setting) (steps : List Step) (disk : Disk)
    (nonces : NonceSupply) :
    ∀ vault, final setting steps (.start disk nonces) = .opened vault → vault.poisoned = false →
      Causes setting vault := by
  intro vault isOpen whole
  have agree := (coherent_final setting steps disk nonces).standing
  rw [isOpen, Situation.standing, whole] at agree
  obtain ⟨⟨next, ready⟩, backed⟩ := agree
  have stillWhole (table : Table) : (withTable table vault).poisoned = false := whole
  exact {
    keyless := insert_keyless_iff ready whole
    exhausted := fun _ keyed => insert_exhausted_iff ready whole keyed
    insertion := by
      intro blob error keyed left fails
      rcases insert_error_cases ready whole keyed fails with ⟨_, last⟩ | hindrance
      · exact absurd last left
      · exact hindrance
    mismatched := update_refused_iff backed whole
    update := fun _ _ _ fits fails => update_error_cases backed whole fits fails
    loadPublic := fun table => loadPublic_ending (stillWhole table)
    loadPrivate := fun keyed table => loadPrivate_ending (stillWhole table) keyed
    formatVersion := formatVersion_ending ready whole }

/-- A vault with one public object and no master key is in such a situation. -/
theorem causes_storing :
    ∃ vault, final (Storing.setting .works) Storing.steps Storing.start = .opened vault ∧
      vault.poisoned = false ∧ vault.session.categoryOf ⟨1⟩ = .publicObject ∧
      Causes (Storing.setting .works) vault := by
  obtain ⟨vault, isOpen, whole, known⟩ :
      ∃ vault, final (Storing.setting .works) Storing.steps Storing.start = .opened vault ∧
        vault.poisoned = false ∧ vault.session.categoryOf ⟨1⟩ = .publicObject :=
    ⟨_, rfl, rfl, rfl⟩
  exact ⟨vault, isOpen, whole, known,
    causes_of_reachable (Storing.setting .works) Storing.steps {} _ vault isOpen whole⟩

end Lifetime

end ObjectVault
