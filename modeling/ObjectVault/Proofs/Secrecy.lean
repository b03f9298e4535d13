import ObjectVault.Proofs.Lifetime
import ObjectVault.Proofs.SealingKey
import ObjectVault.Proofs.Secrets

/-!
# Secrecy

Nothing that the outside hears of a vault tells a payload or the master key, but the answers that
are to contain payloads (`Lifetime.heard_eq_of_twins`): two programs that differ in both alone hear
the same. The proof is one about pairs of runs. Each call of a vault runs alike in the vaults of the
two programs, and so does each attempt to open one.
-/

namespace ObjectVault

/-- The objects with their bytes wiped. -/
def Blob.wipedAll (objects : SortedMap Handle Blob) : SortedMap Handle Blob :=
  objects.filterMap fun blob => some blob.wiped

theorem Blob.wipedAll_insert (objects : SortedMap Handle Blob) (handle : Handle) (blob : Blob) :
    wipedAll (objects.insert handle blob) = (wipedAll objects).insert handle blob.wiped := by
  apply SortedMap.ext_get?
  intro other
  simp only [wipedAll, SortedMap.get?_filterMap, SortedMap.get?_insert]
  split <;> rfl

/-- The answer with the bytes in it wiped. -/
def Vault.Answer.veiled : Answer → Answer
  | .objects loaded => .objects (Blob.wipedAll loaded)
  | .internal value => .internal (value.map fun _ => [])
  | answer => answer

namespace Lifetime

/-- The outcome with the bytes in it wiped. -/
def Outcome.veiled : Outcome → Outcome
  | .answer ending => .answer (ending.map Vault.Answer.veiled)
  | outcome => outcome

/-- What can be told of a step without looking at bytes that are returned: the outcome with these
bytes wiped, the lines of the log, the events and the calls of the engine. -/
def Report.heard (report : Report) : Outcome × Journal := (report.outcome.veiled, report.journal)

end Lifetime

namespace Twins

variable {suite : Suite} {twins : Twins suite} {adversity : Adversity}

section Metadata

open ObjectVault.Action Metadata

/-- An item of metadata is read alike in both worlds. -/
theorem alike_read (item : MetadataItem) :
    (read adversity.backend item).Alike twins.Worlds Eq (read adversity.backend item) := by
  refine (alike_get item.key).bind fun one other found => ?_
  cases found with
  | error error => exact alike_fail _
  | ok found =>
    cases found with
    | none => exact alike_pure rfl
    | @some raw another values =>
      cases values.eq (BlobKey.decode?_key item)
      dsimp only
      cases Decimal.parse? raw with
      | none => exact alike_fail _
      | some number => exact alike_pure rfl

/-- An item of metadata is required alike in both worlds. -/
theorem alike_require (item : MetadataItem) :
    Action.Alike twins.Worlds Eq (require adversity.backend item)
      (require adversity.backend item) := by
  refine (alike_read item).bind_eq fun found => ?_
  cases found with
  | none => exact alike_fail _
  | some number => exact alike_pure rfl

/-- An item of metadata is written alike in both worlds. -/
theorem alike_write (item : MetadataItem) (number : UInt32) :
    Action.Alike twins.Worlds Eq (write adversity.backend item number)
      (write adversity.backend item number) := by
  refine (alike_put (.same (BlobKey.decode?_key item)) _).bind fun one other written => ?_
  cases written with
  | ok => exact alike_pure rfl
  | error error => exact alike_fail _

/-- Both databases are initialized, or neither is. -/
theorem alike_isInitialized :
    Action.Alike twins.Worlds Eq (isInitialized adversity.backend)
      (isInitialized adversity.backend) := by
  refine (alike_get _).bind fun one other found => ?_
  cases found with
  | error error => exact alike_fail _
  | ok found => cases found <;> exact alike_pure rfl

/-- Metadata is set up alike in both worlds. -/
theorem alike_setUp :
    Action.Alike twins.Worlds Eq (setUp adversity.backend) (setUp adversity.backend) :=
  (alike_write _ _).bind_eq fun _ => alike_write _ _

/-- The same handle is given out in both worlds. -/
theorem alike_allocate :
    Action.Alike twins.Worlds Eq (allocate adversity.backend) (allocate adversity.backend) := by
  refine (alike_require _).bind_eq fun next => alike_ite (fun _ => alike_fail _) fun _ => ?_
  exact (alike_write _ _).bind_eq fun _ => alike_pure rfl

end Metadata

section Session

open Session

variable (twins) in
/-- Whether two sessions differ only as the programs do, with master keys that are so related. -/
structure Sessions (keys : Option SealingKey → Option SealingKey → Prop)
    (one other : Session (World Storage)) : Prop where
  world : twins.Worlds one.world other.world
  masterKey : keys one.masterKey other.masterKey
  categories : one.categories = other.categories

variable (twins) in
/-- Whether two blobs that were found differ only as the programs do. -/
structure Found (one other : StoredBlob) : Prop where
  key : one.key = other.key
  category : one.category = other.category
  handle : one.handle = other.handle
  decoded : BlobKey.decode? one.key = some (one.category, one.handle.number)
  values : twins.Values one.key one.value other.value

variable {keys : Option SealingKey → Option SealingKey → Prop}

/-- An action on the worlds runs alike in the sessions. -/
theorem alike_onWorld {α : Type} {values : α → α → Prop} {first second : Action (World Storage) α}
    (alike : first.Alike twins.Worlds values second) :
    (onWorld first).Alike (twins.Sessions keys) values (onWorld second) :=
  alike.within (fun _ _ sessions => sessions.world) fun _ _ _ _ sessions worlds =>
    { sessions with world := worlds }

/-- A call whose failure is logged is alike in both worlds if the call is. -/
theorem alike_callLogging {α : Type} {values : α → α → Prop}
    {first second : World Storage → Reply α × World Storage} (purpose : String)
    (alike : (Action.call first).Alike twins.Worlds (AlikeResults values) (Action.call second)) :
    (callLogging purpose first).Alike (twins.Sessions keys) values
      (callLogging purpose second) := by
  refine (alike_onWorld alike).bind fun one other answered => ?_
  cases answered with
  | ok related => exact Action.alike_pure related
  | error error => exact (Action.alike_log _ _).bind_eq fun _ => Action.alike_fail _

theorem alike_remember (handle : Handle) (category : Category) :
    (remember handle category).Alike (twins.Sessions keys) Eq (remember handle category) :=
  Action.alike_change fun _ _ sessions =>
    { sessions with categories := by rw [sessions.categories] }

theorem alike_forget (handle : Handle) :
    (forget handle).Alike (twins.Sessions keys) Eq (forget handle) :=
  Action.alike_change fun _ _ sessions =>
    { sessions with categories := by rw [sessions.categories] }

theorem alike_refuseWithoutKey {α : Type} {values : α → α → Prop} :
    Action.Alike (twins.Sessions keys) values refuseWithoutKey refuseWithoutKey :=
  (Action.alike_log _ _).bind_eq fun _ => Action.alike_fail _

/-- Whether an internal blob is found does not differ. -/
theorem alike_getInternal (number : UInt32) :
    (getInternal ⟨suite, adversity.backend⟩ number).Alike (twins.Sessions keys)
      (fun one other => one.isSome = other.isSome)
      (getInternal ⟨suite, adversity.backend⟩ number) := by
  refine (alike_callLogging _ (alike_get _)).mono fun one other found => ?_
  cases found <;> rfl

/-- An internal blob is stored alike, whatever it holds. -/
theorem alike_setInternal (number : UInt32) (value another : Bytes) :
    (setInternal ⟨suite, adversity.backend⟩ number value).Alike (twins.Sessions keys) Eq
      (setInternal ⟨suite, adversity.backend⟩ number another) :=
  alike_callLogging _ (alike_put (.internal (BlobKey.decode?_encode _ _)) _)

/-- Payloads that the cipher takes are sealed in envelopes that the programs can open. -/
theorem alike_encrypt {isPrivate : Bool} {payload another : Bytes} (accepts : suite.Accepts payload)
    (alsoAccepts : suite.Accepts another) :
    (encrypt ⟨suite, adversity.backend⟩ ⟨isPrivate, payload⟩).Alike (twins.Sessions twins.Keys)
      (fun one other => twins.Envelopes isPrivate one.payload other.payload)
      (encrypt ⟨suite, adversity.backend⟩ ⟨isPrivate, another⟩) := by
  refine (Action.alike_step fun one other sessions => ?_).bind fun one other results =>
    Action.alike_ofExcept results
  exact ⟨sessions.masterKey.encrypt accepts alsoAccepts _ _, { sessions with }⟩

/-- Objects of one privacy are replaced alike, whatever they hold. -/
theorem alike_update {isPrivate : Bool} {payload another : Bytes} (handle : Handle)
    (accepts : suite.Accepts payload) (alsoAccepts : suite.Accepts another) :
    (update ⟨suite, adversity.backend⟩ handle ⟨isPrivate, payload⟩).Alike
      (twins.Sessions twins.Keys) Eq
      (update ⟨suite, adversity.backend⟩ handle ⟨isPrivate, another⟩) := by
  refine Action.alike_state.bind fun one other sessions => ?_
  simp only [categoryOf, sessions.categories]
  refine Action.alike_ite (fun fits => ?_) fun _ =>
    (Action.alike_log _ _).bind_eq fun _ => Action.alike_fail _
  refine ((alike_encrypt accepts alsoAccepts).loggingError _).bind fun one other envelopes => ?_
  rw [Category.accepts_iff.1 fits]
  exact alike_callLogging _ (alike_put (.object (BlobKey.decode?_encode _ _) envelopes) _)

/-- Objects of one privacy get the same handle, whatever they hold. -/
theorem alike_insert {isPrivate : Bool} {payload another : Bytes}
    (accepts : suite.Accepts payload) (alsoAccepts : suite.Accepts another) :
    (insert ⟨suite, adversity.backend⟩ ⟨isPrivate, payload⟩).Alike (twins.Sessions twins.Keys) Eq
      (insert ⟨suite, adversity.backend⟩ ⟨isPrivate, another⟩) := by
  refine Action.alike_state.bind fun one other sessions => ?_
  simp only [sessions.masterKey.isNone]
  refine Action.alike_ite (fun _ => alike_refuseWithoutKey) fun _ => ?_
  refine ((alike_onWorld alike_allocate).loggingError _).bind_eq fun handle => ?_
  refine (alike_remember _ _).bind_eq fun _ => ?_
  refine (alike_update handle accepts alsoAccepts).attempt.bind fun one other updated => ?_
  cases updated with
  | ok => exact (Action.alike_log _ _).bind_eq fun _ => Action.alike_pure rfl
  | error error => exact (alike_forget _).bind_eq fun _ => Action.alike_fail _

/-- Objects with one handle are deleted alike. -/
theorem alike_deletion (handle : Handle) :
    (delete ⟨suite, adversity.backend⟩ handle).Alike (twins.Sessions keys) Eq
      (delete ⟨suite, adversity.backend⟩ handle) := by
  refine Action.alike_state.bind fun one other sessions => ?_
  simp only [categoryOf, sessions.categories]
  exact (alike_callLogging _ (alike_delete _ _)).bind_eq fun _ => alike_forget handle

/-- The blobs among entries that differ only as the programs do. -/
theorem found_of_entries {entries others : List (Bytes × Bytes)}
    (alike : List.Forall₂ twins.Entries entries others) :
    List.Forall₂ twins.Found (entries.filterMap StoredBlob.ofEntry?)
      (others.filterMap StoredBlob.ofEntry?) := by
  induction alike with
  | nil => exact .nil
  | @cons one other _ _ heads rest ih =>
    simp only [List.filterMap_cons, StoredBlob.ofEntry?, ← heads.key]
    cases decoded : BlobKey.decode? one.1 with
    | none => exact ih
    | some blob => exact .cons ⟨rfl, rfl, rfl, decoded, heads.values⟩ ih

/-- What is remarked of the keys of a scan does not differ. -/
theorem remarks_of_entries {entries others : List (Bytes × Bytes)}
    (alike : List.Forall₂ twins.Entries entries others) :
    entries.flatMap (fun entry => BlobKey.remarks entry.1) =
      others.flatMap fun entry => BlobKey.remarks entry.1 := by
  induction alike with
  | nil => rfl
  | cons heads rest ih => simp only [List.flatMap_cons, heads.key, ih]

/-- The same keys are found in both worlds. -/
theorem alike_storedBlobs :
    (storedBlobs adversity.backend).Alike (twins.Sessions keys) (List.Forall₂ twins.Found)
      (storedBlobs adversity.backend) := by
  refine (alike_onWorld alike_scan).bind fun one other scans => ?_
  rw [remarks_of_entries scans.visited, scans.ending]
  refine (Action.alike_logLines _).bind_eq fun _ => ?_
  cases other.ending with
  | done => exact Action.alike_pure (found_of_entries scans.visited)
  | failed error => exact Action.alike_fail _
  | panicked => exact Action.alike_panicking

/-- Blobs under the same keys are deleted alike. -/
theorem alike_deleteEach {blobs others : List StoredBlob}
    (alike : List.Forall₂ twins.Found blobs others) :
    (deleteEach ⟨suite, adversity.backend⟩ blobs).Alike (twins.Sessions keys) Eq
      (deleteEach ⟨suite, adversity.backend⟩ others) := by
  induction alike with
  | nil => exact Action.alike_pure rfl
  | cons heads rest ih =>
    simp only [deleteEach, heads.key, heads.handle]
    refine (alike_onWorld (alike_delete _ _)).bind fun one other deleted => ?_
    cases deleted with
    | ok => exact (alike_forget _).bind_eq fun _ => ih
    | error error =>
      exact (Action.alike_log _ _).bind_eq fun _ => ih.bind_eq fun _ => Action.alike_pure rfl

/-- All objects are deleted alike. -/
theorem alike_deleteAll :
    (deleteAll ⟨suite, adversity.backend⟩).Alike (twins.Sessions keys) Eq
      (deleteAll ⟨suite, adversity.backend⟩) := by
  refine alike_storedBlobs.bind fun blobs others found => ?_
  have objects : List.Forall₂ twins.Found (blobs.filter StoredBlob.isObject)
      (others.filter StoredBlob.isObject) :=
    List.rel_filter (fun _ _ heads => by simp only [StoredBlob.isObject, heads.category]) found
  simp only [objects.length_eq]
  exact (alike_deleteEach objects).bind_eq fun failures =>
    Action.alike_ite (fun _ => Action.alike_log _ _) fun _ => Action.alike_fail _

/-- All objects of a privacy are opened in both sessions if the master keys are set that they
need. -/
theorem alike_openEach {isPrivate : Bool}
    (keyed : ∀ one other, keys one other →
      SealingKey.select isPrivate one = SealingKey.select isPrivate (some twins.first) ∧
        SealingKey.select isPrivate other = SealingKey.select isPrivate (some twins.second))
    {blobs others : List StoredBlob} (alike : List.Forall₂ twins.Found blobs others)
    (category : ∀ blob ∈ blobs, blob.category = .ofPrivacy isPrivate)
    {objects siblings : SortedMap Handle Blob}
    (same : Blob.wipedAll objects = Blob.wipedAll siblings) :
    (openEach ⟨suite, adversity.backend⟩ (.ofPrivacy isPrivate) blobs objects).Alike
      (twins.Sessions keys) (fun one other => Blob.wipedAll one = Blob.wipedAll other)
      (openEach ⟨suite, adversity.backend⟩ (.ofPrivacy isPrivate) others siblings) := by
  induction alike generalizing objects siblings with
  | nil => exact Action.alike_pure same
  | @cons blob another _ _ heads rest ih =>
    refine Action.alike_state.bind fun one other sessions => ?_
    have isObject := heads.decoded
    rw [category blob (.head _)] at isObject
    obtain ⟨⟨payload, opened⟩, ⟨sibling, alsoOpened⟩⟩ := heads.values.opened isObject
    obtain ⟨selected, alsoSelected⟩ := keyed _ _ sessions.masterKey
    have privacy : (Category.ofPrivacy isPrivate == .privateObject) = isPrivate := by
      cases isPrivate <;> rfl
    simp only [Envelope.decrypt] at opened alsoOpened
    simp only [Envelope.decrypt, privacy, selected, alsoSelected, opened, alsoOpened, heads.handle]
    refine (alike_remember _ _).bind_eq fun _ => ?_
    refine ih (fun blob later => category blob (.tail _ later)) ?_
    rw [Blob.wipedAll_insert, Blob.wipedAll_insert, same]
    rfl

/-- The same handles are loaded, if the envelopes are opened with the keys that sealed them. -/
theorem alike_load (isPrivate : Bool)
    (keyed : ∀ one other, keys one other →
      SealingKey.select isPrivate one = SealingKey.select isPrivate (some twins.first) ∧
        SealingKey.select isPrivate other = SealingKey.select isPrivate (some twins.second)) :
    (load ⟨suite, adversity.backend⟩ (.ofPrivacy isPrivate)).Alike (twins.Sessions keys)
      (fun one other => Blob.wipedAll one = Blob.wipedAll other)
      (load ⟨suite, adversity.backend⟩ (.ofPrivacy isPrivate)) := by
  refine alike_storedBlobs.bind fun blobs others found => alike_openEach keyed ?_ ?_ rfl
  · exact List.rel_filter (fun _ _ heads => by simp only [heads.category]) found
  · intro blob member
    simpa using (List.mem_filter.1 member).2

/-- The key of public objects does not depend on the master keys. -/
theorem alike_loadPublic :
    (load ⟨suite, adversity.backend⟩ .publicObject).Alike (twins.Sessions keys)
      (fun one other => Blob.wipedAll one = Blob.wipedAll other)
      (load ⟨suite, adversity.backend⟩ .publicObject) :=
  alike_load false fun _ _ _ => ⟨rfl, rfl⟩

/-- So are those of the private objects. -/
theorem alike_loadPrivate :
    (loadPrivate ⟨suite, adversity.backend⟩).Alike (twins.Sessions twins.Keys)
      (fun one other => Blob.wipedAll one = Blob.wipedAll other)
      (loadPrivate ⟨suite, adversity.backend⟩) := by
  intro journal one other sessions
  have masterKey := sessions.masterKey
  simp only [loadPrivate, Action.run_bind, Action.run_state, masterKey.isNone]
  generalize first : one.masterKey = key, second : other.masterKey = another at masterKey
  cases masterKey with
  | unset => exact alike_refuseWithoutKey journal one other sessions
  | set =>
    have keyed : twins.Sessions (fun key another => key = some twins.first ∧
        another = some twins.second) one other := { sessions with masterKey := ⟨first, second⟩ }
    refine AlikeRuns.mono (alike_load true (fun _ _ set => ⟨by rw [set.1], by rw [set.2]⟩) journal
      one other keyed) (fun _ _ kept => { kept with masterKey := ?_ }) fun _ _ same => same
    rw [kept.masterKey.1, kept.masterKey.2]
    exact .set

end Session

section Vault

open Vault

variable (twins) in
/-- Whether two vaults differ only as the programs do. -/
structure Vaults (one other : Vault (World Storage)) : Prop where
  session : twins.Sessions twins.Keys one.session other.session
  poisoned : one.poisoned = other.poisoned

/-- What runs alike in the sessions does so with the lock held. -/
theorem alike_locked {α : Type} {values : α → α → Prop}
    {first second : Action (Session (World Storage)) α}
    (alike : first.Alike (twins.Sessions twins.Keys) values second) :
    (locked first).Alike twins.Vaults values (locked second) := by
  refine Action.alike_state.bind fun one other vaults => ?_
  simp only [vaults.poisoned]
  refine Action.alike_ite (fun _ => Action.alike_fail _) fun _ => ?_
  refine (alike.within (fun _ _ vaults => vaults.session) fun _ _ _ _ vaults session =>
    { vaults with session }).onPanic fun _ _ vaults => { vaults with poisoned := rfl }

variable (twins) in
/-- Whether two calls of a vault differ only as the programs do. The cipher takes the payloads. -/
inductive Calls : Operation → Operation → Prop where
  | insert {isPrivate payload another} (accepts : suite.Accepts payload)
      (alsoAccepts : suite.Accepts another) :
      Calls (.insert ⟨isPrivate, payload⟩) (.insert ⟨isPrivate, another⟩)
  | update {handle isPrivate payload another} (accepts : suite.Accepts payload)
      (alsoAccepts : suite.Accepts another) :
      Calls (.update handle ⟨isPrivate, payload⟩) (.update handle ⟨isPrivate, another⟩)
  | delete {handle} : Calls (.delete handle) (.delete handle)
  | deleteAll : Calls .deleteAll .deleteAll
  | loadPublic : Calls .loadPublic .loadPublic
  | loadPrivate : Calls .loadPrivate .loadPrivate
  | getInternal {number} : Calls (.getInternal number) (.getInternal number)
  | setInternal {number value another} :
      Calls (.setInternal number value) (.setInternal number another)
  | setMasterKey : Calls (.setMasterKey twins.first.bytes) (.setMasterKey twins.second.bytes)
  /-- Each program sets a master key of the same wrong size. -/
  | unfitKey {bytes others : Bytes} (unfit : bytes.length ≠ SealingKey.size)
      (size : bytes.length = others.length) : Calls (.setMasterKey bytes) (.setMasterKey others)
  | hasMasterKey : Calls .hasMasterKey .hasMasterKey
  | formatVersion : Calls .formatVersion .formatVersion

/-- A master key is set in both vaults, or refused by both. -/
theorem alike_setMasterKey {bytes others : Bytes}
    (keys : AlikeResults (fun one other => one = twins.first ∧ other = twins.second)
      (SealingKey.ofBytes bytes) (SealingKey.ofBytes others)) :
    (setMasterKey bytes).Alike twins.Vaults Eq (setMasterKey others) := by
  refine ((Action.alike_ofExcept keys).loggingError _).bind ?_
  rintro _ _ ⟨rfl, rfl⟩
  exact alike_locked (Action.alike_change fun _ _ sessions => { sessions with masterKey := .set })

/-- A call runs alike in the vaults of both programs. -/
theorem alike_perform {operation another : Operation} (calls : twins.Calls operation another) :
    (perform ⟨suite, adversity.backend⟩ operation).Alike twins.Vaults
      (fun one other => one.veiled = other.veiled)
      (perform ⟨suite, adversity.backend⟩ another) := by
  cases calls with
  | insert accepts alsoAccepts =>
    exact (alike_locked (alike_insert accepts alsoAccepts)).map fun _ _ same => by rw [same]
  | update accepts alsoAccepts =>
    exact (alike_locked (alike_update _ accepts alsoAccepts)).map fun _ _ _ => rfl
  | delete => exact (alike_locked (alike_deletion _)).map fun _ _ _ => rfl
  | deleteAll => exact (alike_locked alike_deleteAll).map fun _ _ _ => rfl
  | loadPublic =>
    exact (alike_locked alike_loadPublic).map fun _ _ same => congrArg Answer.objects same
  | loadPrivate =>
    exact (alike_locked alike_loadPrivate).map fun _ _ same => congrArg Answer.objects same
  | getInternal =>
    refine (alike_locked (alike_getInternal _)).map fun one other same => ?_
    cases one <;> cases other <;> first | rfl | cases same
  | setInternal => exact (alike_locked (alike_setInternal _ _ _)).map fun _ _ _ => rfl
  | setMasterKey =>
    refine (alike_setMasterKey ?_).map fun _ _ _ => rfl
    simp only [SealingKey.ofBytes, twins.first.length_eq, twins.second.length_eq, dif_pos]
    exact .ok ⟨rfl, rfl⟩
  | unfitKey unfit size =>
    refine (alike_setMasterKey ?_).map fun _ _ _ => rfl
    simp only [SealingKey.ofBytes, ← size, dif_neg (show ¬ _ = 32 from unfit)]
    exact .error _
  | hasMasterKey =>
    refine (alike_locked ?_).map fun one other same => congrArg Answer.truth same
    exact Action.alike_state.map fun one other sessions => by
      rw [← Option.not_isNone, ← Option.not_isNone, sessions.masterKey.isNone]
  | formatVersion =>
    exact (alike_locked (alike_onWorld (alike_require _))).map fun _ _ same => by rw [same]

end Vault

section Recovery

open Recovery

variable {supportsMemory : Bool}

/-- Both databases open, or the same error is answered. -/
theorem alike_tryOpen (location : Location) (options : OpenOptions) :
    ((adversity.engine supportsMemory).tryOpen location options).Alike twins.Worlds Eq
      ((adversity.engine supportsMemory).tryOpen location options) := by
  refine (Action.alike_noteCall _).bind_eq fun _ => Action.alike_step fun one other worlds => ?_
  simp only [Adversity.engine, Adversity.attempt, worlds.attempts]
  exact ⟨trivial, { worlds with attempts := rfl }⟩

/-- Both are repaired, or the same error is answered. -/
theorem alike_tryRepair (location : Location) :
    ((adversity.engine supportsMemory).tryRepair location).Alike twins.Worlds Eq
      ((adversity.engine supportsMemory).tryRepair location) := by
  refine (Action.alike_noteCall _).bind_eq fun _ => ?_
  refine Action.Alike.bind_eq (Action.alike_step fun one other worlds => ?_) fun repair => ?_
  · simp only [Adversity.engine, Adversity.attempt, worlds.attempts]
    exact ⟨trivial, { worlds with attempts := rfl }⟩
  · exact (Action.alike_logLines _).bind_eq fun _ => Action.alike_pure rfl

/-- What recovery does to a disk depends on the disk alone. -/
theorem alike_quarantine (layout : Layout) :
    (quarantine layout).Alike twins.Worlds Eq (quarantine layout) := by
  refine Action.Alike.bind_eq (Action.alike_step fun one other worlds => ?_) fun result => ?_
  · simp only [worlds.disk]
    exact ⟨trivial, { worlds with disk := rfl }⟩
  · cases result <;> exact Action.alike_log _ _

/-- The last stage goes alike. -/
theorem alike_recreate (sink : EventSink) (layout : Option Layout) (location : Location) :
    (recreate (adversity.engine supportsMemory) sink layout location).Alike twins.Worlds Eq
      (recreate (adversity.engine supportsMemory) sink layout location) := by
  refine (Action.alike_log _ _).bind_eq fun _ => ?_
  cases layout
  case' some layout => refine (alike_quarantine layout).bind_eq fun _ => ?_
  all_goals
    refine (alike_tryOpen location {}).bind_eq fun result => ?_
    cases result with
    | ok handle => exact Action.alike_pure rfl
    | error error =>
      exact (Action.alike_log _ _).bind_eq fun _ => (Action.alike_send _ _).bind_eq fun _ =>
        Action.alike_fail _

/-- The second stage goes alike. -/
theorem alike_repairAndOpen (location : Location) :
    (repairAndOpen (adversity.engine supportsMemory) location).Alike twins.Worlds Eq
      (repairAndOpen (adversity.engine supportsMemory) location) := by
  refine (alike_tryRepair location).bind_eq fun result => ?_
  cases result with
  | ok _ => exact alike_tryOpen location {}
  | error error => exact Action.alike_pure rfl

/-- All stages go alike. -/
theorem alike_openInStages (sink : EventSink) (layout : Option Layout) (location : Location) :
    (openInStages (adversity.engine supportsMemory) sink layout location).Alike twins.Worlds Eq
      (openInStages (adversity.engine supportsMemory) sink layout location) := by
  refine (alike_tryOpen location {}).bind_eq fun result => ?_
  cases result with
  | ok handle => exact Action.alike_pure rfl
  | error openError =>
    refine (Action.alike_log _ _).bind_eq fun _ => (Action.alike_send _ _).bind_eq fun _ =>
      (Action.alike_log _ _).bind_eq fun _ => ?_
    refine (alike_repairAndOpen location).bind_eq fun result => ?_
    cases result with
    | ok handle => exact (Action.alike_log _ _).bind_eq fun _ => Action.alike_pure rfl
    | error repairError =>
      exact (Action.alike_log _ _).bind_eq fun _ => (Action.alike_send _ _).bind_eq fun _ =>
        alike_recreate sink layout location

/-- Both databases get their metadata alike. -/
theorem alike_initializeOnce :
    (initializeOnce adversity.backend).Alike twins.Worlds Eq
      (initializeOnce adversity.backend) := by
  refine alike_isInitialized.attempt.bind fun one other found => ?_
  cases found with
  | error error => exact Action.alike_fail _
  | @ok isInitialized _ same =>
    cases same
    cases isInitialized with
    | true => exact Action.alike_pure rfl
    | false =>
      refine (Action.alike_log _ _).bind_eq fun _ => alike_setUp.attempt.bind fun _ _ written => ?_
      cases written with
      | ok => exact Action.alike_pure rfl
      | error error => exact (Action.alike_log _ _).bind_eq fun _ => Action.alike_fail _

/-- An attempt to bring up a database runs alike in the worlds of both programs. -/
theorem alike_bringUp (sink : EventSink) (root : Location) :
    (bringUp (adversity.engine supportsMemory) sink root).Alike twins.Worlds Eq
      (bringUp (adversity.engine supportsMemory) sink root) := by
  refine Action.alike_ite (fun _ => (Action.alike_log _ _).bind_eq fun _ => Action.alike_fail _)
    fun _ => (Action.alike_log _ _).bind_eq fun _ => ?_
  refine (alike_openInStages sink _ _).bind_eq fun opened => ?_
  refine (alike_initializeOnce.orElseChange fun _ _ worlds => worlds).bind_eq fun _ => ?_
  exact (Action.alike_log _ _).bind_eq fun _ => Action.alike_pure rfl

end Recovery

section Lifetime

open Lifetime

variable (twins) in
/-- Whether two steps differ only as the programs do. -/
inductive Steps : Step → Step → Prop where
  | reopen {sink key another} (keys : twins.Keys key another) :
      Steps (.reopen sink key) (.reopen sink another)
  | operate {operation another} (calls : twins.Calls operation another) :
      Steps (.operate operation) (.operate another)

variable (twins) in
/-- Whether two situations differ only as the programs do. -/
inductive Situations : Situation → Situation → Prop where
  | closed {one other nonces others} (worlds : twins.Worlds one other) :
      Situations (.closed one nonces) (.closed other others)
  | opened {one other} (vaults : twins.Vaults one other) : Situations (.opened one) (.opened other)

variable {setting : Setting} {twins : Twins setting.suite} {before sibling : Situation}

/-- Two calls are heard alike. -/
theorem operate_alike {operation another : Vault.Operation} (calls : twins.Calls operation another)
    (situations : twins.Situations before sibling) :
    (take setting (.operate operation) before).heard =
        (take setting (.operate another) sibling).heard ∧
      twins.Situations (take setting (.operate operation) before).after
        (take setting (.operate another) sibling).after := by
  cases situations with
  | closed worlds => exact ⟨rfl, .closed worlds⟩
  | @opened one other vaults =>
    have runs : AlikeRuns twins.Vaults (fun one other => one.veiled = other.veiled)
        ((Vault.perform setting.services operation).run ⟨one, {}⟩)
        ((Vault.perform setting.services another).run ⟨other, {}⟩) :=
      alike_perform calls {} one other vaults
    simp only [take, Report.heard, Outcome.veiled]
    generalize (Vault.perform setting.services operation).run _ = run,
      (Vault.perform setting.services another).run _ = last at runs ⊢
    cases runs with
    | intro journal endings related =>
      have same := (endings.map fun one other veiled => veiled).eq
      exact ⟨by rw [same], .opened related⟩

/-- Two attempts to open the vaults are heard alike. -/
theorem reopen_alike (sink : EventSink) {key another : Option SealingKey}
    (keys : twins.Keys key another) (situations : twins.Situations before sibling) :
    (take setting (.reopen sink key) before).heard =
        (take setting (.reopen sink another) sibling).heard ∧
      twins.Situations (take setting (.reopen sink key) before).after
        (take setting (.reopen sink another) sibling).after := by
  have worlds : twins.Worlds (before.closing setting) (sibling.closing setting) := by
    cases situations with
    | closed worlds => exact worlds
    | opened vaults => exact vaults.session.world
  have runs : AlikeRuns twins.Worlds Eq
      ((Recovery.bringUp setting.engine sink setting.root).run ⟨before.closing setting, {}⟩)
      ((Recovery.bringUp setting.engine sink setting.root).run ⟨sibling.closing setting, {}⟩) :=
    alike_bringUp sink setting.root {} _ _ worlds
  simp only [take, Report.heard, Outcome.veiled, Vault.bringUp]
  generalize (Recovery.bringUp setting.engine sink setting.root).run
      ⟨before.closing setting, {}⟩ = run,
    (Recovery.bringUp setting.engine sink setting.root).run
      ⟨sibling.closing setting, {}⟩ = last at runs ⊢
  cases runs with
  | intro journal endings related =>
    cases endings with
    | done same => exact ⟨by rw [same], .opened ⟨⟨related, keys, rfl⟩, rfl⟩⟩
    | failed error => exact ⟨rfl, .closed related⟩
    | panicked => exact ⟨rfl, .closed related⟩

/-- A step of both programs is heard alike, and they still differ in the same only. -/
theorem take_alike {step another : Step} (steps : twins.Steps step another)
    (situations : twins.Situations before sibling) :
    (take setting step before).heard = (take setting another sibling).heard ∧
      twins.Situations (take setting step before).after (take setting another sibling).after := by
  cases steps with
  | reopen keys => exact reopen_alike _ keys situations
  | operate calls => exact operate_alike calls situations

/-- All steps of both programs are heard alike. -/
theorem reports_alike {steps others : List Step} (alike : List.Forall₂ twins.Steps steps others)
    (situations : twins.Situations before sibling) :
    (reports setting steps before).map Report.heard =
      (reports setting others sibling).map Report.heard := by
  induction alike generalizing before sibling with
  | nil => rfl
  | cons first rest ih =>
    obtain ⟨same, after⟩ := take_alike first situations
    simp only [reports, List.map_cons, same, ih after]

/-- Two programs that start with nothing stored differ in nothing. -/
theorem start_alike (disk : Disk) (nonces others : NonceSupply) :
    twins.Situations (.start disk nonces) (.start disk others) :=
  .closed { disk := rfl, attempts := rfl, calls := rfl, entries := .nil }

end Lifetime

end Twins

namespace Lifetime

/-- Nothing but the bytes that are returned differs between two lifetimes that start with nothing
stored and differ in nothing but the payloads and the master key, whatever fails and whichever
nonces are drawn. -/
theorem heard_eq_of_twins (setting : Setting) (twins : Twins setting.suite) (disk : Disk)
    (nonces others : NonceSupply) (first second : List Step)
    (alike : List.Forall₂ twins.Steps first second) :
    (reports setting first (.start disk nonces)).map Report.heard =
      (reports setting second (.start disk others)).map Report.heard :=
  Twins.reports_alike alike (Twins.start_alike disk nonces others)

namespace Secrecy

/-- A setting in which nothing goes wrong. -/
def setting : Setting := ⟨.standard, .memory, true, .absent⟩

/-- Two programs with different master keys. -/
def twins : Twins setting.suite where
  undoes := Suite.undoes_standard
  first := .repeated 1
  second := .repeated 2

/-- A program that stores and loads a private object, and an internal blob. -/
def steps (key : SealingKey) (payload value : Bytes) : List Step := [
  .reopen .silent (some key), .operate (.insert ⟨true, payload⟩), .operate (.setInternal 7 value),
  .operate .loadPrivate, .operate (.getInternal 7)]

end Secrecy

/-- A program is heard alike with another master key, other nonces and other bytes to store. -/
theorem heard_eq_of_keys :
    (reports Secrecy.setting (Secrecy.steps Secrecy.twins.first [1, 2, 3] [4])
        (.start {} ⟨fun _ => .counting 0, 0⟩)).map Report.heard =
      (reports Secrecy.setting (Secrecy.steps Secrecy.twins.second [] [5, 6])
        (.start {} ⟨fun _ => .counting 1, 0⟩)).map Report.heard := by
  refine heard_eq_of_twins Secrecy.setting Secrecy.twins {} _ _ _ _ ?_
  have accepts : Suite.Accepts .standard [1, 2, 3] := Suite.accepts_standard (by decide)
  have alsoAccepts : Suite.Accepts .standard [] := Suite.accepts_standard (by decide)
  exact .cons (.reopen .set) (.cons (.operate (.insert accepts alsoAccepts))
    (.cons (.operate .setInternal) (.cons (.operate .loadPrivate)
      (.cons (.operate .getInternal) .nil))))

end Lifetime

end ObjectVault
