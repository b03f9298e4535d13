import ObjectVault.Proofs.Opening

/-!
# What the command removes that deletes an object

A vault deletes a handle in the category that is known for it, and takes it for an internal blob if
none is. The command that deletes an object therefore loads the objects first, and goes on only if
the handle is among them. It is followed here on a database in which anything may be stored
(`Command.runWith_delete`), and `Command.deletion_confined` says what it removes, when it fails, and
that it does nothing else.
-/

namespace ObjectVault

namespace Table

variable (table : Table) (suite : Suite) (master : Option SealingKey)

/-- Whether a handle is in the list of the objects of a privacy. There is no list of private objects
without a master key. -/
def Lists (isPrivate : Bool) (handle : Handle) : Prop :=
  (isPrivate = true → master.isSome) ∧
    handle ∈ (table.objects suite master (.ofPrivacy isPrivate)).keys

instance (isPrivate : Bool) (handle : Handle) :
    Decidable (table.Lists suite master isPrivate handle) :=
  inferInstanceAs (Decidable (_ ∧ _))

/-- The privacy of an object that is looked for among the public objects first. -/
def privacy? (handle : Handle) : Option Bool :=
  if table.Lists suite master false handle then some false
  else if table.Lists suite master true handle then some true
  else none

variable {table suite master} {handle : Handle} {isPrivate : Bool}

/-- A public object is listed if it is among those that can be read. -/
theorem lists_false_iff : table.Lists suite master false handle ↔
    (table.objects suite master .publicObject).contains handle = true := by
  simp [Lists, Category.ofPrivacy, SortedMap.contains_iff]

/-- A private object is listed if it is among those that can be read, and there is a master key. -/
theorem lists_true_iff : table.Lists suite master true handle ↔
    master.isSome = true ∧ (table.objects suite master .privateObject).contains handle = true := by
  simp [Lists, Category.ofPrivacy, SortedMap.contains_iff]

/-- An object that is found is in the list in which it is found, and was not in one before. -/
theorem lists_of_privacy? (found : table.privacy? suite master handle = some isPrivate) :
    table.Lists suite master isPrivate handle ∧
      (isPrivate = true → ¬ table.Lists suite master false handle) := by
  unfold privacy? at found
  split at found
  · next isPublic =>
    cases found
    exact ⟨isPublic, nofun⟩
  · next notPublic =>
    split at found
    · next isPrivate =>
      cases found
      exact ⟨isPrivate, fun _ => notPublic⟩
    · cases found

/-- An object is not found if it is in no list. -/
theorem privacy?_eq_none_iff : table.privacy? suite master handle = none ↔
    ∀ isPrivate, ¬ table.Lists suite master isPrivate handle := by
  simp only [privacy?, Bool.forall_bool]
  split
  · next isPublic => simp [isPublic]
  · next notPublic => split <;> simp [*]

/-- Whether every blob is stored under the one key of its number. -/
def CanonicalBlobs (table : Table) : Prop :=
  ∀ key value category number, table.get? key = some value →
    BlobKey.decode? key = some (category, number) → key = BlobKey.encode category number

/-- If blobs are stored under the keys of their numbers only, an object cannot be read any more once
its key is removed. -/
theorem CanonicalBlobs.notMem_keys_erase (canonical : table.CanonicalBlobs) :
    handle ∉ (objects (table.erase (BlobKey.encode (.ofPrivacy isPrivate) handle.number)) suite
      master (.ofPrivacy isPrivate)).keys := by
  intro listed
  obtain ⟨key, object, named, value, stored, _⟩ := mem_keys_objects_iff.1 listed
  obtain ⟨differs, stored⟩ := SortedMap.of_get?_erase stored
  exact differs (canonical key value _ _ stored named)

/-- So it is in no list any more. -/
theorem CanonicalBlobs.not_lists_erase (canonical : table.CanonicalBlobs) :
    ¬ Lists (table.erase (BlobKey.encode (.ofPrivacy isPrivate) handle.number)) suite master
      isPrivate handle :=
  fun lists => canonical.notMem_keys_erase lists.2

end Table

namespace Command

variable {ω η : Type} {ground : Ground ω}

/-- An object is readable if it is in one of the two lists, and its category is known then. -/
theorem achieves_isReadable (ground : Ground ω) (content : Content) (handle : Handle) :
    ∃ after, after.table = content.table ∧
      (∀ isPrivate, content.table.privacy? ground.services.suite content.memory.masterKey handle =
        some isPrivate → after.memory.categoryOf handle = .ofPrivacy isPrivate) ∧
      ground.Achieves (isReadable ground.services handle) content
        (content.table.privacy? ground.services.suite content.memory.masterKey handle).isSome
        after := by
  let suite := ground.services.suite
  let seen := content.loading suite .publicObject
  have loadsPublic := ground.achieves_loadPublic content
  have asks : ground.Achieves _ seen _ seen := ground.achieves_hasMasterKey _
  simp only [Table.privacy?, Table.lists_false_iff, Table.lists_true_iff]
  cases isPublic : (content.table.objects suite content.memory.masterKey .publicObject).contains
    handle with
  | true =>
    refine ⟨seen, rfl, ?_, loadsPublic.bind rfl (.of_true isPublic (.pure rfl))⟩
    rintro _ ⟨⟩
    exact content.categoryOf_loading _ isPublic
  | false =>
    cases keyed : content.memory.masterKey.isSome with
    | false =>
      refine ⟨seen, rfl, nofun, loadsPublic.bind rfl (.of_false isPublic (asks.bind rfl ?_))⟩
      exact .of_false keyed (.pure rfl)
    | true =>
      let all := seen.loading suite .privateObject
      have loadsPrivate : ground.Achieves _ seen _ all := ground.achieves_loadPrivate keyed
      cases listed : (content.table.objects suite content.memory.masterKey
          .privateObject).contains handle with
      | false =>
        refine ⟨all, rfl, nofun, loadsPublic.bind rfl (.of_false isPublic (asks.bind rfl ?_))⟩
        exact .of_true keyed (loadsPrivate.bind rfl (.pure listed))
      | true =>
        refine ⟨all, rfl, ?_, loadsPublic.bind rfl (.of_false isPublic (asks.bind rfl ?_))⟩
        · rintro _ ⟨⟩
          exact seen.categoryOf_loading _ listed
        · exact .of_true keyed (loadsPrivate.bind rfl (.pure listed))

/-- What the command answers that deletes an object, by the privacy with which it is found. -/
def deletionAnswer (handle : Handle) : Option Bool → Except Failure String
  | some _ => .ok ""
  | none => .error ⟨"no readable object with handle " ++ handle.message, []⟩

/-- What the command leaves of a database that deletes an object. -/
def deletionTable (table : Table) (handle : Handle) : Option Bool → Table
  | some isPrivate => table.erase (BlobKey.encode (.ofPrivacy isPrivate) handle.number)
  | none => table

/-- The command that deletes an object removes it where it is found. -/
theorem achieves_execute_delete (ground : Ground ω) (opened : Opened η) (content : Content)
    (handle : Handle) :
    let privacy? :=
      content.table.privacy? ground.services.suite content.memory.masterKey handle
    ∃ memory, ground.Achieves (execute ground.services opened (.delete handle)) content
      (deletionAnswer handle privacy?) ⟨deletionTable content.table handle privacy?, memory⟩ := by
  intro privacy?
  obtain ⟨after, same, category, reads⟩ := achieves_isReadable ground content handle
  change ground.Achieves _ content privacy?.isSome after at reads
  change ∀ isPrivate, privacy? = some isPrivate → _ at category
  obtain ⟨table, memory⟩ := after
  cases same
  cases found : privacy? with
  | none =>
    rw [found] at reads
    exact ⟨_, reads.bind rfl (.of_false rfl (.pure rfl))⟩
  | some isPrivate =>
    rw [found] at reads
    have deletes := ground.achieves_delete ⟨content.table, memory⟩ handle
    rw [category isPrivate found] at deletes
    have answers := deletes.map fun _ => deletionAnswer handle (some isPrivate)
    exact ⟨_, reads.bind rfl (.of_true rfl answers)⟩

section Runs

variable {σ η : Type} {engine : Engine σ η} {held : World σ → Table} {world : World σ}
  {database : η} {opened : World σ} {table : Table} {handle : Handle}

/-- Only an action that ends with a value prints something. -/
theorem Result.exists_done_of_printed {ending : Ending (Except Failure String)} {out : String}
    (printed : Result.ofEnding ending = .printed out) : ∃ answer, ending = .done answer := by
  cases ending with
  | done answer => exact ⟨answer, rfl⟩
  | failed error => cases printed
  | panicked => cases printed

/-- A run goes on with the command once the vault is open, and closes the vault. -/
theorem runWith_of_done {config : Config} {invocation : Invocation} {nonces : NonceSupply}
    {suite : Suite} {brought : Opened η} {later : Machine (World σ)}
    (done : (Vault.bringUp engine config).run ⟨world, {}⟩ = (.done brought, later)) :
    let execution := (execute (Vault.services engine suite brought.handle) brought
      invocation.command).run ⟨Vault.fresh config later.state nonces, later.journal⟩
    (runWith engine suite config invocation world nonces).result = .ofEnding execution.1 ∧
      (runWith engine suite config invocation world nonces).world =
        engine.close brought.handle execution.2.state.session.world := by
  simp only [runWith, done, and_self]

/-- A run that deletes an object removes it where it is found, unless it fails and leaves the
database as it was. -/
theorem runWith_delete {config : Config}
    (opensWith : engine.OpensWith held config.location world database opened table)
    (initialized : table.contains MetadataItem.formatVersion.key = true) (suite : Suite)
    (store : String) (keyHex : Option String) (handle : Handle) (nonces : NonceSupply) :
    let outcome := runWith engine suite config ⟨store, keyHex, .delete handle⟩ world nonces
    let privacy? := table.privacy? suite config.masterKey handle
    outcome.result = .ofEnding (.done (deletionAnswer handle privacy?)) ∧
        held outcome.world = deletionTable table handle privacy? ∨
      ¬ (engine.backend database).Reliable opened ∧ (∀ out, outcome.result ≠ .printed out) ∧
        held outcome.world = table := by
  intro outcome privacy?
  have brought := opensWith.bringUp initialized suite rfl {}
  cases bringing : (Vault.bringUp engine config).run ⟨world, {}⟩ with
  | mk ending later =>
    rw [bringing] at brought
    rcases brought with ⟨done, has⟩ | ⟨unreliable, failing, unchanged⟩
    · cases done
      obtain ⟨result, final⟩ := runWith_of_done bringing
      change outcome.result = _ at result
      change outcome.world = _ at final
      obtain ⟨memory, achieves⟩ := achieves_execute_delete (opensWith.ground suite)
        (⟨database, .opened, false⟩ : Opened η) ⟨table, ⟨nonces, config.masterKey, ∅⟩⟩ handle
      have carried := achieves ⟨Vault.fresh config later.state nonces, later.journal⟩
        ⟨rfl, has, rfl⟩
      rcases carried.cases_ending with ⟨done, holds⟩ | ⟨unreliable, failing, has⟩
      · obtain ⟨⟨_, makes⟩, holdsTable⟩ := holds.has
        refine .inl ⟨result.trans (congrArg Result.ofEnding done), ?_⟩
        rw [final]
        exact (opensWith.closes makes).trans holdsTable
      · obtain ⟨⟨_, makes⟩, unchanged⟩ := has
        refine .inr ⟨unreliable, fun out printed => ?_, ?_⟩
        · obtain ⟨answer, done⟩ := Result.exists_done_of_printed (result.symm.trans printed)
          exact failing answer done
        · rw [final]
          exact (opensWith.closes makes).trans unchanged
    · refine .inr ⟨unreliable, ?_⟩
      simp only [outcome, runWith, bringing]
      cases ending with
      | done opened => exact absurd rfl (failing opened)
      | failed error => exact ⟨by simp, unchanged⟩
      | panicked => exact ⟨by simp, unchanged⟩

/-- Whether a master key is the one that the option of a command gives, if it gives one. -/
inductive GivesKey : Option String → Option SealingKey → Prop where
  | keyless : GivesKey none none
  | keyed {text : String} {key : SealingKey} (reads : readHex text = .ok key.bytes) :
      GivesKey (some text) (some key)

/-- The vault is configured with the key that the option gives. An option that gives none is
refused. -/
theorem configure_eq_ok_iff {store : String} {keyHex : Option String} {command : Command}
    {config : Config} :
    configure ⟨store, keyHex, command⟩ = .ok config ↔
      ∃ master, GivesKey keyHex master ∧
        config = { Config.ofText store with masterKey := master } := by
  constructor
  · intro configured
    cases keyHex with
    | none =>
      cases configured
      exact ⟨none, .keyless, rfl⟩
    | some text =>
      simp only [configure] at configured
      cases isHex : readHex text with
      | error failure => simp [isHex, Except.mapError, bind, Except.bind] at configured
      | ok bytes =>
        cases fits : SealingKey.ofBytes bytes with
        | error error => simp [isHex, fits, Except.mapError, bind, Except.bind] at configured
        | ok key =>
          simp only [isHex, fits, Except.mapError, bind, Except.bind] at configured
          cases configured
          obtain ⟨_, rfl⟩ := SealingKey.ofBytes_eq_ok_iff.1 fits
          exact ⟨_, .keyed isHex, rfl⟩
  · rintro ⟨master, gives, rfl⟩
    cases gives with
    | keyless => rfl
    | @keyed text key reads =>
      have fits : SealingKey.ofBytes key.bytes = .ok key :=
        SealingKey.ofBytes_eq_ok_iff.2 ⟨key.length_eq, rfl⟩
      simp only [configure, reads, fits, Except.mapError, bind, Except.bind]
      rfl

/-- What a command that deletes an object does to a database, and how it ends. -/
structure Deletion (suite : Suite) (master : Option SealingKey) (handle : Handle)
    (before after : Table) (reliable : Prop) (result : Result) : Prop where
  /-- A command that does not succeed changes nothing. -/
  unchanged : (∀ out, result ≠ .printed out) → after = before
  /-- One that succeeds prints nothing. It has found the object, among the private ones only if it
  is not among the public ones, and it has removed the key of the object there and changed nothing
  else. If all keys are canonical, the object is not there any more. -/
  removed : ∀ out, result = .printed out → out = "" ∧
    ∃ isPrivate, before.Lists suite master isPrivate handle ∧
      (isPrivate = true → ¬ before.Lists suite master false handle) ∧
      after = before.erase (BlobKey.encode (.ofPrivacy isPrivate) handle.number) ∧
      (before.CanonicalBlobs → ¬ after.Lists suite master isPrivate handle)
  /-- Every internal blob is still there, however its key is spelt. -/
  internal : ∀ key number, BlobKey.decode? key = some (.internal, number) →
    after.get? key = before.get? key
  metadata : ∀ item : MetadataItem, after.get? item.key = before.get? item.key
  /-- It fails exactly if the object is in no list that can be read. -/
  fails : reliable → ((∃ failure, result = .failed failure) ↔
    ∀ isPrivate, ¬ before.Lists suite master isPrivate handle)
  /-- It succeeds exactly if the object is in one. -/
  succeeds : reliable → (result = .printed "" ↔
    ∃ isPrivate, before.Lists suite master isPrivate handle)

/-- A command that does not succeed does nothing. Where every call of the database works, it does
not come to this. -/
theorem Deletion.of_unreliable {suite : Suite} {master : Option SealingKey} {reliable : Prop}
    {result : Result} (unreliable : ¬ reliable) (failing : ∀ out, result ≠ .printed out) :
    Deletion suite master handle table table reliable result where
  unchanged _ := rfl
  removed out printed := absurd printed (failing out)
  internal _ _ _ := rfl
  metadata _ := rfl
  fails works := absurd works unreliable
  succeeds works := absurd works unreliable

/-- The object is removed where it is found, and nothing happens if it is not found. -/
theorem Deletion.of_answer {suite : Suite} {master : Option SealingKey} {reliable : Prop} :
    let privacy? := table.privacy? suite master handle
    Deletion suite master handle table (deletionTable table handle privacy?) reliable
      (.ofEnding (.done (deletionAnswer handle privacy?))) := by
  intro privacy?
  cases found : privacy? with
  | none =>
    have unlisted := Table.privacy?_eq_none_iff.1 found
    constructor
    case unchanged => exact fun _ => rfl
    case removed => exact nofun
    case internal => exact fun _ _ _ => rfl
    case metadata => exact fun _ => rfl
    case fails => exact fun _ => ⟨fun _ => unlisted, fun _ => ⟨_, rfl⟩⟩
    case succeeds => exact fun _ => ⟨nofun, fun ⟨isPrivate, listed⟩ => absurd listed (unlisted _)⟩
  | some isPrivate =>
    obtain ⟨listed, first⟩ := Table.lists_of_privacy? found
    constructor
    case unchanged => exact fun failing => absurd rfl (failing "")
    case removed =>
      rintro _ ⟨⟩
      exact ⟨rfl, isPrivate, listed, first, rfl, fun canonical => canonical.not_lists_erase⟩
    case internal =>
      intro key number named
      refine SortedMap.get?_erase_of_ne table ?_
      rintro rfl
      rw [BlobKey.decode?_encode] at named
      cases isPrivate <;> cases named
    case metadata =>
      exact fun item => SortedMap.get?_erase_of_ne table (BlobKey.encode_ne_key _ _ item).symm
    case fails => exact fun _ => ⟨nofun, fun unlisted => absurd listed (unlisted isPrivate)⟩
    case succeeds => exact fun _ => ⟨fun _ => ⟨isPrivate, listed⟩, fun _ => rfl⟩

/-- Where every call works, an object that is found is removed where it is found first. -/
theorem Deletion.removes {suite : Suite} {master : Option SealingKey} {before after : Table}
    {reliable : Prop} {result : Result} {isPrivate : Bool}
    (deletion : Deletion suite master handle before after reliable result) (works : reliable)
    (listed : before.Lists suite master isPrivate handle)
    (first : isPrivate = true → ¬ before.Lists suite master false handle) :
    result = .printed "" ∧
      after = before.erase (BlobKey.encode (.ofPrivacy isPrivate) handle.number) := by
  have succeeds := (deletion.succeeds works).2 ⟨isPrivate, listed⟩
  obtain ⟨_, found, foundListed, foundFirst, after, _⟩ := deletion.removed "" succeeds
  have same : found = isPrivate := by
    cases found with
    | false => exact (Bool.eq_false_iff.2 fun isTrue => first isTrue foundListed).symm
    | true =>
      cases isPrivate with
      | false => exact absurd listed (foundFirst rfl)
      | true => rfl
  exact ⟨succeeds, same ▸ after⟩

/-- The command that deletes an object removes nothing else. Whatever is in a database that is
initialized and opens without recovery, and whatever key is given, the key of the object is removed
in the list in which the object is found, or the command fails and the database is as it was. An
option that is not the text of a key is refused. -/
theorem deletion_confined (store : String)
    (opensWith : engine.OpensWith held (.ofText store) world database opened table)
    (initialized : table.contains MetadataItem.formatVersion.key = true) (suite : Suite)
    (keyHex : Option String) (handle : Handle) (nonces : NonceSupply) :
    let outcome := run engine suite ⟨store, keyHex, .delete handle⟩ world nonces
    (∀ master, GivesKey keyHex master →
      Deletion suite master handle table (held outcome.world)
        ((engine.backend database).Reliable opened) outcome.result) ∧
    ((∀ master, ¬ GivesKey keyHex master) →
      (∃ failure, outcome.result = .failed failure) ∧ held outcome.world = table) := by
  intro outcome
  constructor
  · intro master gives
    let config : Config := { Config.ofText store with masterKey := master }
    have configured : configure ⟨store, keyHex, .delete handle⟩ = .ok config :=
      configure_eq_ok_iff.2 ⟨master, gives, rfl⟩
    have runs :
        outcome = runWith engine suite config ⟨store, keyHex, .delete handle⟩ world nonces := by
      simp only [outcome, run, configured]
    have located : engine.OpensWith held config.location world database opened table := opensWith
    rw [runs]
    rcases runWith_delete located initialized suite store keyHex handle nonces with
      ⟨result, after⟩ | ⟨unreliable, failing, unchanged⟩
    · rw [result, after]
      exact .of_answer
    · rw [unchanged]
      exact .of_unreliable unreliable failing
  · intro none
    cases configured : configure ⟨store, keyHex, .delete handle⟩ with
    | error failure =>
      simp only [outcome, run, configured]
      exact ⟨⟨failure, rfl⟩, opensWith.before⟩
    | ok config =>
      obtain ⟨master, gives, _⟩ := configure_eq_ok_iff.1 configured
      exact absurd gives (none master)

end Runs

namespace Removal

/-- A database in which the object with the number 7 is public under a key with zeros in front,
damaged under the canonical one, and private too. There is a private object with the number 8, and
an internal blob with the number 9. -/
def table : Table := .ofList [
  (Bytes.ofText "DBVersion", Bytes.ofText "1"),
  (Bytes.ofText "InternalBlob&9", [1]),
  (Bytes.ofText "NextBlobID", Bytes.ofText "10"),
  (Bytes.ofText "PrivateBlob&7", Vault.Loading.envelope [2]),
  (Bytes.ofText "PrivateBlob&8", Vault.Loading.envelope [3]),
  (Bytes.ofText "PublicBlob&007", Vault.Loading.envelope [4]),
  (Bytes.ofText "PublicBlob&7", [5])]

/-- A disk on which it is at rest. -/
def disk : Disk where
  nodes := .ofList [(["vault"], .directory), (["vault", "database"], .directory),
    (["vault", "database", "store.redb"], .file 0)]
  files := .ofList [(0, .database ⟨.objects table, .clean⟩)]
  nextFile := 1

/-- What comes of the command that deletes an object there. -/
def outcome (handle : Handle) : Outcome Files.Memory :=
  run Files.engine Vault.Loading.suite ⟨"vault", some Errands.keyHex, .delete handle⟩ ⟨disk, {}⟩
    ⟨.counting, 0⟩

/-- The world in which no key can be removed there. -/
def hindered : World (Scripted.State Files.Memory) :=
  ⟨disk, { inner := {}, rules := [{ call := .delete }] }⟩

/-- What comes of the command in that world. -/
def hinderedOutcome (handle : Handle) : Outcome (Scripted.State Files.Memory) :=
  run (Scripted.scripted Files.engine true .delegate) Vault.Loading.suite
    ⟨"vault", some Errands.keyHex, .delete handle⟩ hindered ⟨.counting, 0⟩

end Removal

/-- Of three objects, one loses what was damaged of it, one is removed, and one is none. If no key
can be removed, the command fails and nothing changes. -/
theorem deletion_confined_damaged :
    let after (handle : Handle) := Files.table (.file 0) (Removal.outcome handle).world
    Files.Holds ⟨"vault"⟩ 0 Removal.table .clean Removal.disk ∧
      GivesKey (some Errands.keyHex) (some Errands.masterKey) ∧
      after ⟨7⟩ = Removal.table.erase (BlobKey.encode .publicObject 7) ∧
      after ⟨8⟩ = Removal.table.erase (BlobKey.encode .privateObject 8) ∧
      (∃ failure, (Removal.outcome ⟨9⟩).result = .failed failure) ∧ after ⟨9⟩ = Removal.table ∧
      (∃ failure, (Removal.hinderedOutcome ⟨7⟩).result = .failed failure) ∧
      Files.table (.file 0) (Scripted.innerWorld (Removal.hinderedOutcome ⟨7⟩).world) =
        Removal.table := by
  intro after
  have holds : Files.Holds ⟨"vault"⟩ 0 Removal.table .clean Removal.disk :=
    ⟨by decide +kernel, by decide +kernel, by decide +kernel⟩
  have gives : GivesKey (some Errands.keyHex) (some Errands.masterKey) :=
    .keyed (by decide +kernel)
  have opens : ∃ opened, Files.engine.OpensWith (Files.table (.file 0)) (.directory "vault")
      ⟨Removal.disk, {}⟩ _ opened Removal.table ∧ _ := holds.opensWith rfl
  obtain ⟨opened, opensWith, reliable⟩ := opens
  have deletes (handle : Handle) := (deletion_confined "vault" opensWith (by decide +kernel)
    Vault.Loading.suite (some Errands.keyHex) handle ⟨.counting, 0⟩).1 _ gives
  let suite := Vault.Loading.suite
  let master := some Errands.masterKey
  have isPublic : Removal.table.Lists suite master false ⟨7⟩ := by decide +kernel
  have isPrivate : Removal.table.Lists suite master true ⟨8⟩ := by decide +kernel
  have notPublic : ¬ Removal.table.Lists suite master false ⟨8⟩ := by decide +kernel
  have isNone : ∀ isPrivate, ¬ Removal.table.Lists suite master isPrivate ⟨9⟩ := by decide +kernel
  obtain ⟨failure, fails⟩ := ((deletes ⟨9⟩).fails reliable).2 isNone
  have alsoOpens : (Scripted.scripted Files.engine true .delegate).OpensWith
      (fun world => Files.table (.file 0) (Scripted.innerWorld world)) (.directory "vault")
      Removal.hindered _ _ Removal.table :=
    Scripted.opensWith_scripted opensWith rfl (fun _ => rfl) .delegate
  have alsoDeletes := (deletion_confined "vault" alsoOpens (by decide +kernel) suite
    (some Errands.keyHex) ⟨7⟩ ⟨.counting, 0⟩).1 _ gives
  have alsoFails : (Removal.hinderedOutcome ⟨7⟩).result = .failed
      ⟨"backend error: backend io error: scripted delete failure",
        ["backend io error: scripted delete failure"]⟩ := by
    decide +kernel
  refine ⟨holds, gives, ?_, ?_, ⟨failure, fails⟩, ?_, ⟨_, alsoFails⟩, ?_⟩
  · exact ((deletes ⟨7⟩).removes reliable isPublic nofun).2
  · exact ((deletes ⟨8⟩).removes reliable isPrivate fun _ => notPublic).2
  · exact (deletes ⟨9⟩).unchanged fun out printed => nomatch fails.symm.trans printed
  · exact alsoDeletes.unchanged fun out printed => nomatch alsoFails.symm.trans printed

end Command

end ObjectVault
