import ObjectVault.Vault
import ObjectVault.Proofs.Conduct.Metadata
import ObjectVault.Proofs.Envelope
import ObjectVault.Proofs.SortedMap

/-!
# The conduct of a session

For each call of a session, which exchanges it has with the database, how it ends, and what the
session keeps in mind afterwards. Each relation has a constructor for each way in which the call
can go, and holds of every run of the call, whichever database there is. What follows about a
session follows from the relations, and the actions themselves are not looked at again.
-/

namespace ObjectVault

/-- What a session keeps in mind: all of it but the world of the database. -/
structure Memory where
  nonces : NonceSupply
  masterKey : Option SealingKey
  /-- The category of every object that was inserted or loaded and not deleted. -/
  categories : SortedMap Handle Category

namespace Memory

/-- The category known for a handle. -/
def categoryOf (memory : Memory) (handle : Handle) : Category :=
  (memory.categories.get? handle).getD .internal

/-- The memory with the category of one more object. -/
def knowing (memory : Memory) (handle : Handle) (category : Category) : Memory :=
  { memory with categories := memory.categories.insert handle category }

/-- The memory without an object. -/
def without (memory : Memory) (handle : Handle) : Memory :=
  { memory with categories := memory.categories.erase handle }

end Memory

/-- What the session keeps in mind. -/
def Session.memory {ω : Type} (session : Session ω) : Memory where
  nonces := session.nonces
  masterKey := session.masterKey
  categories := session.categories

/-- Whether every run of an action on a session has exchanges with the database, an ending, and a
memory before and after it that are so related. -/
def Session.Conducts {ω α : Type} (backend : Backend ω) (action : Action (Session ω) α)
    (conduct : Memory → List Exchange → Ending α → Memory → Prop) : Prop :=
  ∀ machine, ∃ exchanges,
    backend.Makes machine.state.world exchanges (action.run machine).2.state.world ∧
      conduct machine.state.memory exchanges (action.run machine).1
        (action.run machine).2.state.memory

/-- The blobs among some entries of a database. -/
def StoredBlob.among (entries : List (Bytes × Bytes)) : List StoredBlob :=
  entries.filterMap StoredBlob.ofEntry?

/-- The objects of a category that can be read, in the order in which they are found. -/
def StoredBlob.readable (suite : Suite) (master : Option SealingKey) (category : Category)
    (blobs : List StoredBlob) : List (Handle × Blob) :=
  blobs.filterMap fun blob =>
    match Envelope.decrypt suite master ⟨category == .privateObject, blob.value⟩ with
    | .ok object => some (blob.handle, object)
    | .error _ => none

/-- The objects of a category that cannot be read, in the order in which they are found, each with
what is the matter with it. -/
def StoredBlob.damaged (suite : Suite) (master : Option SealingKey) (category : Category)
    (blobs : List StoredBlob) : List (StoredBlob × VaultError) :=
  blobs.filterMap fun blob =>
    match Envelope.decrypt suite master ⟨category == .privateObject, blob.value⟩ with
    | .ok _ => none
    | .error error => some (blob, error)

namespace Session

/-- How an internal blob is read. -/
inductive Recalling (number : UInt32) (before : Memory) :
    List Exchange → Ending (Option Bytes) → Memory → Prop where
  | asked {reply} :
      Recalling number before [.get (BlobKey.encode .internal number) reply] reply.ending before

/-- How an internal blob is stored. -/
inductive Noting (number : UInt32) (value : Bytes) (before : Memory) :
    List Exchange → Ending Unit → Memory → Prop where
  | written {reply} :
      Noting number value before [.put (BlobKey.encode .internal number) value .synced reply]
        reply.ending before

/-- How an object is replaced. -/
inductive Updating (suite : Suite) (handle : Handle) (blob : Blob) (before : Memory) :
    List Exchange → Ending Unit → Memory → Prop where
  | mismatched (differs : (before.categoryOf handle).accepts blob.isPrivate = false) :
      Updating suite handle blob before []
        (.failed (.privacyMismatch handle (before.categoryOf handle))) before
  | unsealed {error nonces} (fits : (before.categoryOf handle).accepts blob.isPrivate = true)
      (sealing : Envelope.encrypt suite before.masterKey before.nonces blob =
        (.error error, nonces)) :
      Updating suite handle blob before [] (.failed error) { before with nonces }
  | written {envelope nonces reply}
      (fits : (before.categoryOf handle).accepts blob.isPrivate = true)
      (sealing : Envelope.encrypt suite before.masterKey before.nonces blob =
        (.ok envelope, nonces)) :
      Updating suite handle blob before
        [.put (BlobKey.encode (before.categoryOf handle) handle.number) envelope.payload .synced
          reply]
        reply.ending { before with nonces }

/-- How a new object is stored. -/
inductive Inserting (suite : Suite) (blob : Blob) (before : Memory) :
    List Exchange → Ending Handle → Memory → Prop where
  | keyless (isPrivate : blob.isPrivate = true) (unset : before.masterKey = none) :
      Inserting suite blob before [] (.failed .keyNotInitialized) before
  | unallocated {exchanges error} (keyed : blob.isPrivate = true → before.masterKey.isSome)
      (allocating : Metadata.Allocating exchanges (.failed error)) :
      Inserting suite blob before exchanges (.failed error) before
  | stoppedEarly {exchanges} (keyed : blob.isPrivate = true → before.masterKey.isSome)
      (allocating : Metadata.Allocating exchanges .panicked) :
      Inserting suite blob before exchanges .panicked before
  /-- The object is not stored under its handle, which is forgotten. -/
  | unstored {exchanges handle error more after}
      (keyed : blob.isPrivate = true → before.masterKey.isSome)
      (allocating : Metadata.Allocating exchanges (.done handle))
      (updating : Updating suite handle blob (before.knowing handle (.ofPrivacy blob.isPrivate))
        more (.failed error) after) :
      Inserting suite blob before (exchanges ++ more) (.failed error) (after.without handle)
  | stopped {exchanges handle more after}
      (keyed : blob.isPrivate = true → before.masterKey.isSome)
      (allocating : Metadata.Allocating exchanges (.done handle))
      (updating : Updating suite handle blob (before.knowing handle (.ofPrivacy blob.isPrivate))
        more .panicked after) :
      Inserting suite blob before (exchanges ++ more) .panicked after
  | stored {exchanges handle more after}
      (keyed : blob.isPrivate = true → before.masterKey.isSome)
      (allocating : Metadata.Allocating exchanges (.done handle))
      (updating : Updating suite handle blob (before.knowing handle (.ofPrivacy blob.isPrivate))
        more (.done ()) after) :
      Inserting suite blob before (exchanges ++ more) (.done handle) after

/-- How an object is deleted. -/
inductive Deleting (handle : Handle) (before : Memory) :
    List Exchange → Ending Unit → Memory → Prop where
  | deleted :
      Deleting handle before
        [.delete (BlobKey.encode (before.categoryOf handle) handle.number) .synced (.done ())]
        (.done ()) (before.without handle)
  | undeleted {reply} (failing : reply ≠ .done ()) :
      Deleting handle before
        [.delete (BlobKey.encode (before.categoryOf handle) handle.number) .synced reply]
        reply.ending before

/-- How blobs are deleted one by one. The answer is the number of failures. -/
inductive Sweeping : List StoredBlob → Memory → List Exchange → Ending Nat → Memory → Prop where
  | finished {before} : Sweeping [] before [] (.done 0) before
  | deleted {blob rest before exchanges ending after}
      (sweeping : Sweeping rest (before.without blob.handle) exchanges ending after) :
      Sweeping (blob :: rest) before (.delete blob.key .synced (.done ()) :: exchanges) ending after
  | kept {blob rest before exchanges error ending after}
      (sweeping : Sweeping rest before exchanges ending after) :
      Sweeping (blob :: rest) before (.delete blob.key .synced (.failed error) :: exchanges)
        (ending.map (· + 1)) after
  | stopped {blob rest before} :
      Sweeping (blob :: rest) before [.delete blob.key .synced .panicked] .panicked before

/-- A deletion that fails does not end the sweep. -/
theorem Sweeping.ending_ne_failed {blobs : List StoredBlob} {before after : Memory}
    {exchanges : List Exchange} {ending : Ending Nat} {error : VaultError}
    (sweeping : Sweeping blobs before exchanges ending after) : ending ≠ .failed error := by
  induction sweeping with
  | finished => simp
  | deleted _ ih => exact ih
  | @kept _ _ _ _ _ ending _ _ ih =>
    cases ending with
    | failed other => simpa [Ending.map] using ih
    | _ => simp [Ending.map]
  | stopped => simp

/-- How all objects are deleted. -/
inductive DeletingAll (before : Memory) : List Exchange → Ending Unit → Memory → Prop where
  | unscanned {seen} (failing : seen.ending ≠ .done ()) :
      DeletingAll before [.scan seen] seen.ending.ending before
  | stopped {seen exchanges after} (scanned : seen.ending = .done ())
      (sweeping : Sweeping ((StoredBlob.among seen.visited).filter StoredBlob.isObject) before
        exchanges .panicked after) :
      DeletingAll before (.scan seen :: exchanges) .panicked after
  | swept {seen exchanges failures after} (scanned : seen.ending = .done ())
      (sweeping : Sweeping ((StoredBlob.among seen.visited).filter StoredBlob.isObject) before
        exchanges (.done failures) after) :
      DeletingAll before (.scan seen :: exchanges)
        (if failures = 0 then .done ()
          else .failed (.incompleteDeletion failures
            ((StoredBlob.among seen.visited).filter StoredBlob.isObject).length))
        after

/-- The objects of a category that a scan shows and that can be read. -/
def found (suite : Suite) (memory : Memory) (category : Category) (seen : Scan) :
    List (Handle × Blob) :=
  StoredBlob.readable suite memory.masterKey category
    ((StoredBlob.among seen.visited).filter fun blob => blob.category = category)

/-- How the objects of a category are loaded. -/
inductive Loading (suite : Suite) (category : Category) (before : Memory) :
    List Exchange → Ending (SortedMap Handle Blob) → Memory → Prop where
  | unscanned {seen} (failing : seen.ending ≠ .done ()) :
      Loading suite category before [.scan seen] (seen.ending.ending.map fun _ => ∅) before
  | loaded {seen} (scanned : seen.ending = .done ()) :
      Loading suite category before [.scan seen]
        (.done (SortedMap.insertAll ∅ (found suite before category seen)))
        { before with
          categories := before.categories.insertAll
            ((found suite before category seen).map fun object => (object.1, category)) }

/-- How the private objects are loaded. -/
inductive LoadingPrivate (suite : Suite) (before : Memory) :
    List Exchange → Ending (SortedMap Handle Blob) → Memory → Prop where
  | keyless (unset : before.masterKey = none) :
      LoadingPrivate suite before [] (.failed .keyNotInitialized) before
  | keyed {exchanges ending after} (set : before.masterKey.isSome)
      (loading : Loading suite .privateObject before exchanges ending after) :
      LoadingPrivate suite before exchanges ending after

variable {ω α : Type}

/-- A call of the database is made in the world of the session. -/
theorem call_run (request : ω → Reply α × ω) (machine : Machine (Session ω)) :
    (call request).run machine =
      match request machine.state.world with
      | (.done value, world) =>
        (.done (.ok value), { machine with state := { machine.state with world } })
      | (.failed error, world) =>
        (.done (.error error), { machine with state := { machine.state with world } })
      | (.panicked, world) =>
        (.panicked, { machine with state := { machine.state with world } }) := by
  simp only [call, onWorld, Action.within, Action.run_call]
  rcases request machine.state.world with ⟨_ | _ | _, world⟩ <;> rfl

/-- A failed call is logged, and fails all the same. -/
theorem callLogging_run (purpose : String) (request : ω → Reply α × ω)
    (machine : Machine (Session ω)) :
    ∃ journal, (callLogging purpose request).run machine =
      ((request machine.state.world).1.ending,
        ⟨{ machine.state with world := (request machine.state.world).2 }, journal⟩) := by
  simp only [callLogging, Action.run_bind, call_run]
  rcases request machine.state.world with ⟨_ | _ | _, world⟩ <;> exact ⟨_, rfl⟩

/-- An internal blob is read as `Recalling` says. -/
theorem getInternal_conduct (services : Services ω) (number : UInt32) :
    Conducts services.backend (getInternal services number) (Recalling number) := by
  intro machine
  obtain ⟨journal, run⟩ := callLogging_run
    ("Failed to read internal blob " ++ toString number.toNat)
    (services.backend.get (BlobKey.encode .internal number)) machine
  rw [getInternal, run]
  exact ⟨_, .get _ .nothing, .asked⟩

/-- An internal blob is stored as `Noting` says. -/
theorem setInternal_conduct (services : Services ω) (number : UInt32) (value : Bytes) :
    Conducts services.backend (setInternal services number value) (Noting number value) := by
  intro machine
  obtain ⟨journal, run⟩ := callLogging_run
    ("Failed to write internal blob " ++ toString number.toNat)
    (services.backend.put (BlobKey.encode .internal number) value .synced) machine
  rw [setInternal, run]
  exact ⟨_, .put _ _ _ .nothing, .written⟩

/-- An envelope is made with the master key and the nonces of the session. -/
theorem encrypt_run (services : Services ω) (blob : Blob) (machine : Machine (Session ω)) :
    (encrypt services blob).run machine =
      match Envelope.encrypt services.suite machine.state.masterKey machine.state.nonces blob with
      | (.ok envelope, nonces) =>
        (.done envelope, { machine with state := { machine.state with nonces } })
      | (.error error, nonces) =>
        (.failed error, { machine with state := { machine.state with nonces } }) := by
  simp only [encrypt, Action.run_bind, Action.run_step]
  rcases Envelope.encrypt services.suite machine.state.masterKey machine.state.nonces blob with
    ⟨_ | _, nonces⟩ <;> rfl

/-- An object is replaced as `Updating` says. -/
theorem update_conduct (services : Services ω) (handle : Handle) (blob : Blob) :
    Conducts services.backend (update services handle blob)
      (Updating services.suite handle blob) := by
  intro machine
  simp only [update, Action.run_bind, Action.run_state]
  cases fits : (machine.state.categoryOf handle).accepts blob.isPrivate with
  | false => exact ⟨[], .nothing, .mismatched fits⟩
  | true =>
    simp only [if_true, Action.run_bind]
    obtain ⟨journal, run⟩ := Action.run_loggingError
      (fun error => "Failed to encrypt object blob: " ++ error.message) (encrypt services blob)
      machine
    rw [run, encrypt_run]
    cases sealing : Envelope.encrypt services.suite machine.state.masterKey machine.state.nonces
        blob with
    | mk result nonces =>
      cases result with
      | error error => exact ⟨[], .nothing, .unsealed fits sealing⟩
      | ok envelope =>
        obtain ⟨journal, run⟩ := callLogging_run ("Failed to write object blob " ++ handle.message)
          (services.backend.put (BlobKey.encode (machine.state.categoryOf handle) handle.number)
            envelope.payload .synced) ⟨{ machine.state with nonces }, journal⟩
        simp only [run]
        exact ⟨_, .put _ _ _ .nothing, .written fits sealing⟩

/-- An action on the world leaves everything else in the session alone. -/
theorem onWorld_run (action : Action ω α) (machine : Machine (Session ω)) :
    (onWorld action).run machine =
      ((action.run ⟨machine.state.world, machine.journal⟩).1,
        ⟨{ machine.state with
            world := (action.run ⟨machine.state.world, machine.journal⟩).2.state },
          (action.run ⟨machine.state.world, machine.journal⟩).2.journal⟩) := rfl

/-- A new object is stored as `Inserting` says. -/
theorem insert_conduct (services : Services ω) (blob : Blob) :
    Conducts services.backend (insert services blob) (Inserting services.suite blob) := by
  intro machine
  simp only [insert, Action.run_bind, Action.run_state]
  cases keyless : blob.isPrivate && machine.state.masterKey.isNone with
  | true =>
    rw [Bool.and_eq_true, Option.isNone_iff_eq_none] at keyless
    exact ⟨[], .nothing, .keyless keyless.1 keyless.2⟩
  | false =>
    have keyed : blob.isPrivate = true → machine.state.masterKey.isSome := by
      intro isPrivate
      rw [isPrivate, Bool.true_and] at keyless
      simpa using keyless
    simp only [Bool.false_eq_true, if_false, Action.run_bind]
    obtain ⟨journal, run⟩ := Action.run_loggingError
      (fun error => "Failed to generate blob identifier: " ++ error.message)
      (onWorld (Metadata.allocate services.backend)) machine
    rw [run, onWorld_run]
    obtain ⟨exchanges, makes, allocating⟩ := Metadata.allocate_conduct services.backend
      ⟨machine.state.world, machine.journal⟩
    generalize (Metadata.allocate services.backend).run _ = allocation at makes allocating ⊢
    obtain ⟨handle | _ | _, world, _⟩ := allocation
    · simp only [remember, Action.run_change, Action.run_attempt]
      obtain ⟨more, makesMore, updating⟩ := update_conduct services handle blob
        ⟨{ machine.state with
            world
            categories :=
              machine.state.categories.insert handle (.ofPrivacy blob.isPrivate) }, journal⟩
      generalize (update services handle blob).run _ = outcome at makesMore updating ⊢
      have made := makes.trans makesMore
      obtain ⟨_ | _ | _, later⟩ := outcome
      · exact ⟨_, made, .stored keyed allocating updating⟩
      · have unstored : Inserting services.suite blob machine.state.memory _ _ _ :=
          .unstored keyed allocating updating
        exact ⟨_, made, unstored⟩
      · exact ⟨_, made, .stopped keyed allocating updating⟩
    · exact ⟨_, makes, .unallocated keyed allocating⟩
    · exact ⟨_, makes, .stoppedEarly keyed allocating⟩

/-- A blob is deleted as `Deleting` says. -/
theorem delete_conduct (services : Services ω) (handle : Handle) :
    Conducts services.backend (delete services handle) (Deleting handle) := by
  intro machine
  simp only [delete, Action.run_bind, Action.run_state]
  obtain ⟨journal, run⟩ := callLogging_run ("Failed to delete blob " ++ handle.message)
    (services.backend.delete
      (BlobKey.encode (machine.state.categoryOf handle) handle.number) .synced) machine
  rw [run]
  have makes : services.backend.Makes machine.state.world _ _ :=
    .delete (BlobKey.encode (machine.state.categoryOf handle) handle.number) .synced .nothing
  generalize services.backend.delete (BlobKey.encode (machine.state.categoryOf handle)
    handle.number) .synced machine.state.world = answer at makes ⊢
  obtain ⟨_ | _ | _, world⟩ := answer
  · exact ⟨_, makes, .deleted⟩
  · exact ⟨_, makes, .undeleted (by simp)⟩
  · exact ⟨_, makes, .undeleted (by simp)⟩

/-- Some blobs are deleted one after the other as `Sweeping` says. -/
theorem deleteEach_conduct (services : Services ω) (blobs : List StoredBlob) :
    Conducts services.backend (deleteEach services blobs) (Sweeping blobs) := by
  induction blobs with
  | nil =>
    intro machine
    exact ⟨[], .nothing, .finished⟩
  | cons blob rest ih =>
    intro machine
    simp only [deleteEach, Action.run_bind, call_run]
    have makes {more later} := @Backend.Makes.delete _ services.backend machine.state.world more
      later blob.key .synced
    generalize services.backend.delete blob.key .synced machine.state.world = answer at makes ⊢
    obtain ⟨_ | error | _, world⟩ := answer
    · obtain ⟨more, makesMore, sweeping⟩ := ih
        ⟨{ machine.state with world, categories := machine.state.categories.erase blob.handle },
          machine.journal⟩
      exact ⟨_, makes makesMore, .deleted sweeping⟩
    · simp only [Action.run_bind, Action.run_log]
      obtain ⟨more, makesMore, sweeping⟩ := ih
        ⟨{ machine.state with world }, { machine.journal with
          lines := machine.journal.lines ++ [⟨.error, "Failed to delete blob " ++
            blob.handle.message ++ ": " ++ error.message⟩] }⟩
      have kept :
          Sweeping (blob :: rest) _ (.delete blob.key .synced (.failed error) :: more) _ _ :=
        .kept sweeping
      generalize (deleteEach services rest).run _ = outcome at makesMore kept ⊢
      obtain ⟨_ | _ | _, later⟩ := outcome <;> exact ⟨_, makes makesMore, kept⟩
    · exact ⟨_, makes .nothing, .stopped⟩

/-- The stored blobs are found in one scan. -/
theorem storedBlobs_run (backend : Backend ω) (machine : Machine (Session ω)) :
    (storedBlobs backend).run machine =
      ((backend.scan machine.state.world).1.ending.ending.map fun _ =>
          StoredBlob.among (backend.scan machine.state.world).1.visited,
        ⟨{ machine.state with world := (backend.scan machine.state.world).2 },
          { machine.journal with
            lines := machine.journal.lines ++ (backend.scan machine.state.world).1.visited.flatMap
              fun entry => BlobKey.remarks entry.1 }⟩) := by
  simp only [storedBlobs, Action.run_bind, onWorld_run, Action.run_step, Action.logLines,
    Action.run_record]
  generalize backend.scan machine.state.world = answer
  obtain ⟨⟨visited, _ | _ | _⟩, world⟩ := answer <;> rfl

/-- All objects are deleted as `DeletingAll` says. -/
theorem deleteAll_conduct (services : Services ω) :
    Conducts services.backend (deleteAll services) DeletingAll := by
  intro machine
  simp only [deleteAll, Action.run_bind, storedBlobs_run]
  have makes {more later} := @Backend.Makes.scan _ services.backend machine.state.world more later
  generalize services.backend.scan machine.state.world = answer at makes ⊢
  obtain ⟨seen, world⟩ := answer
  cases ends : seen.ending with
  | failed error =>
    have unscanned : DeletingAll machine.state.memory [.scan seen] _ _ :=
      .unscanned (by simp [ends])
    rw [ends] at unscanned
    exact ⟨_, makes .nothing, unscanned⟩
  | panicked =>
    have unscanned : DeletingAll machine.state.memory [.scan seen] _ _ :=
      .unscanned (by simp [ends])
    rw [ends] at unscanned
    exact ⟨_, makes .nothing, unscanned⟩
  | done value =>
    simp only [Reply.ending, Ending.map]
    generalize Journal.mk _ _ _ = journal
    obtain ⟨exchanges, makesMore, sweeping⟩ := deleteEach_conduct services
      ((StoredBlob.among seen.visited).filter StoredBlob.isObject)
      ⟨{ machine.state with world }, journal⟩
    have made := makes makesMore
    generalize (deleteEach services
      ((StoredBlob.among seen.visited).filter StoredBlob.isObject)).run _ = outcome
      at made sweeping ⊢
    obtain ⟨failures | _ | _, later⟩ := outcome
    · have swept := DeletingAll.swept ends sweeping
      cases failures with
      | zero => exact ⟨_, made, swept⟩
      | succ failures => exact ⟨_, made, swept⟩
    · exact absurd rfl sweeping.ending_ne_failed
    · exact ⟨_, made, .stopped ends sweeping⟩

/-- The line that is written about a blob that cannot be read. -/
def warning (blob : StoredBlob) (error : VaultError) : LogLine :=
  ⟨.warn, "Failed to decrypt object blob " ++ blob.handle.message ++ ": " ++ error.message⟩

/-- Of some blobs those are answered and known that can be read. -/
theorem openEach_run (services : Services ω) (category : Category) (blobs : List StoredBlob)
    (objects : SortedMap Handle Blob) (machine : Machine (Session ω))
    (keyed : category = .privateObject → machine.state.masterKey.isSome) :
    (openEach services category blobs objects).run machine =
      (.done (objects.insertAll
          (StoredBlob.readable services.suite machine.state.masterKey category blobs)),
        ⟨{ machine.state with
            categories := machine.state.categories.insertAll
              ((StoredBlob.readable services.suite machine.state.masterKey category blobs).map
                fun object => (object.1, category)) },
          { machine.journal with
            lines := machine.journal.lines ++
              (StoredBlob.damaged services.suite machine.state.masterKey category blobs).map
                fun (blob, error) => warning blob error }⟩) := by
  induction blobs generalizing objects machine with
  | nil => simp [openEach, StoredBlob.readable, StoredBlob.damaged, SortedMap.insertAll]
  | cons blob rest ih =>
    simp only [openEach, Action.run_bind, Action.run_state]
    cases opened : Envelope.decrypt services.suite machine.state.masterKey
        ⟨category == .privateObject, blob.value⟩ with
    | ok object =>
      simp only [Action.run_bind, remember, Action.run_change]
      have run := ih (objects.insert blob.handle object)
        ⟨{ machine.state with
            categories := machine.state.categories.insert blob.handle category },
          machine.journal⟩ keyed
      rw [run]
      simp [StoredBlob.readable, StoredBlob.damaged, SortedMap.insertAll, opened]
    | error error =>
      have isDamage := Envelope.isBlobDamage_of_decrypt
        (fun isPrivate => keyed (by simpa using isPrivate)) opened
      simp only [isDamage, if_true, Action.run_bind, Action.run_log]
      have run := ih objects ⟨machine.state, { machine.journal with
        lines := machine.journal.lines ++ [warning blob error] }⟩ keyed
      simp only [warning] at run
      rw [run]
      simp [StoredBlob.readable, StoredBlob.damaged, warning, opened]

/-- The objects of a category whose key is there are loaded as `Loading` says. -/
theorem load_conduct (services : Services ω) (category : Category)
    (machine : Machine (Session ω))
    (keyed : category = .privateObject → machine.state.masterKey.isSome) :
    ∃ exchanges,
      services.backend.Makes machine.state.world exchanges
        ((load services category).run machine).2.state.world ∧
      Loading services.suite category machine.state.memory exchanges
        ((load services category).run machine).1
        ((load services category).run machine).2.state.memory := by
  simp only [load, Action.run_bind, storedBlobs_run]
  have makes : services.backend.Makes machine.state.world _ _ := .scan .nothing
  generalize services.backend.scan machine.state.world = answer at makes ⊢
  obtain ⟨seen, world⟩ := answer
  cases ends : seen.ending with
  | failed error =>
    have unscanned : Loading services.suite category machine.state.memory [.scan seen] _ _ :=
      .unscanned (by simp [ends])
    rw [ends] at unscanned
    exact ⟨_, makes, unscanned⟩
  | panicked =>
    have unscanned : Loading services.suite category machine.state.memory [.scan seen] _ _ :=
      .unscanned (by simp [ends])
    rw [ends] at unscanned
    exact ⟨_, makes, unscanned⟩
  | done value =>
    simp only [Reply.ending, Ending.map]
    generalize Journal.mk _ _ _ = journal
    rw [openEach_run services category _ ∅ ⟨{ machine.state with world }, journal⟩ keyed]
    exact ⟨_, makes, .loaded ends⟩

/-- The public objects are always loaded so. -/
theorem loadPublic_conduct (services : Services ω) :
    Conducts services.backend (load services .publicObject)
      (Loading services.suite .publicObject) := by
  intro machine
  exact load_conduct services .publicObject machine (by simp)

/-- The private objects are loaded so if there is a master key. -/
theorem loadPrivate_conduct (services : Services ω) :
    Conducts services.backend (loadPrivate services) (LoadingPrivate services.suite) := by
  intro machine
  simp only [loadPrivate, Action.run_bind, Action.run_state]
  cases set : machine.state.masterKey with
  | none =>
    have unset : machine.state.memory.masterKey = none := set
    exact ⟨[], .nothing, .keyless unset⟩
  | some key =>
    have known : machine.state.masterKey.isSome := by simp [set]
    obtain ⟨exchanges, makes, loading⟩ :=
      load_conduct services .privateObject machine fun _ => known
    exact ⟨exchanges, makes, .keyed known loading⟩

end Session

end ObjectVault
