import ObjectVault.Proofs.Reachable

/-!
# What a failed call leaves

If a call of an open vault answers an error, the database, the categories that the session has in
mind and the master key are as they were before, with two exceptions (`Vault.Leaving`). The handle
of an object that is not stored is spent, and if not all objects can be deleted, the others are gone
and are forgotten. That an insertion forgets just what it has learnt rests on the coherence of the
session with its database: the handle that is given out is not known before.
-/

namespace ObjectVault

open Exchange

/-- What a call that answers an error leaves, by the call and the error. Nonces may have been
drawn. -/
inductive Vault.Leaving (table : Table) (before : Memory) :
    Operation → VaultError → Table → Memory → Prop where
  | unchanged {operation error nonces} :
      Leaving table before operation error table { before with nonces }
  /-- A handle is spent on an object that is not stored. -/
  | spent {blob error nonces} {number : Nat}
      (counter : table.get? MetadataItem.nextHandle.key = some (Decimal.render number))
      (keyed : error ≠ .keyNotInitialized) (allocated : error ≠ .idSpaceExhausted) :
      Leaving table before (.insert blob) error
        (table.insert MetadataItem.nextHandle.key (Decimal.render (number + 1)))
        { before with nonces }
  /-- Some of the objects are gone, and are forgotten. -/
  | swept {removed : List StoredBlob} {failures total}
      (objects : ∀ blob ∈ removed, blob.ObjectOf table)
      (left : failures ≠ 0) (count : failures + removed.length = total) :
      Leaving table before .deleteAll (.incompleteDeletion failures total)
        (table.eraseAll (removed.map StoredBlob.key))
        { before with categories := before.categories.eraseAll (removed.map StoredBlob.handle) }

/-- If there is a key for a blob that is not sealed, it is the cipher that does not seal it. -/
theorem Envelope.error_of_encrypt {suite : Suite} {master : Option SealingKey}
    {supply later : NonceSupply} {blob : Blob} {error : VaultError}
    (keyed : blob.isPrivate = true → master.isSome)
    (fails : encrypt suite master supply blob = (.error error, later)) :
    error = .encryption "aead::Error" := by
  obtain ⟨key, selected⟩ := SealingKey.exists_select keyed
  simp only [encrypt, selected, write] at fails
  split at fails
  · cases fails
  · cases fails
    rfl

namespace Session

variable {suite : Suite} {table : Table} {next : UInt32} {before after : Memory}
  {exchanges : List Exchange}

/-- The blobs that a sweep deletes are some of those that it is to delete, and the others are the
failures. -/
theorem Sweeping.removes {blobs : List StoredBlob} {ending : Ending Nat}
    (sweeping : Sweeping blobs before exchanges ending after) :
    ∃ removed, List.Sublist removed blobs ∧
      (∀ table, afterAll exchanges table = table.eraseAll (removed.map StoredBlob.key)) ∧
      after = { before with
        categories := before.categories.eraseAll (removed.map StoredBlob.handle) } ∧
      ∀ failures, ending = .done failures → failures + removed.length = blobs.length := by
  induction sweeping with
  | finished => exact ⟨[], .slnil, fun _ => rfl, rfl, by simp⟩
  | @deleted blob rest before exchanges ending after sweeping ih =>
    obtain ⟨removed, some, tables, memory, count⟩ := ih
    refine ⟨blob :: removed, some.cons_cons _, fun table => tables _, memory, ?_⟩
    intro failures ends
    have counted := count failures ends
    simp only [List.length_cons]
    omega
  | @kept blob rest before exchanges error ending after sweeping ih =>
    obtain ⟨removed, some, tables, memory, count⟩ := ih
    refine ⟨removed, some.cons _, tables, memory, ?_⟩
    intro failures ends
    obtain ⟨fewer, done, rfl⟩ := Ending.map_eq_done.1 ends
    have counted := count fewer done
    simp only [List.length_cons]
    omega
  | stopped => exact ⟨[], List.nil_sublist _, fun _ => rfl, rfl, by simp⟩

/-- An object is not left unreplaced for want of a key or of a handle if there is a key for it. -/
theorem Updating.error_ne {handle : Handle} {blob : Blob} {error : VaultError}
    (keyed : blob.isPrivate = true → before.masterKey.isSome)
    (updating : Updating suite handle blob before exchanges (.failed error) after) :
    error ≠ .keyNotInitialized ∧ error ≠ .idSpaceExhausted := by
  generalize fails : Ending.failed error = ending at updating
  cases updating with
  | mismatched =>
    cases fails
    simp
  | unsealed fits sealing =>
    cases fails
    rw [Envelope.error_of_encrypt keyed sealing]
    simp
  | @written _ _ reply =>
    cases reply with
    | done => cases fails
    | panicked => cases fails
    | failed =>
      cases fails
      simp

/-- An insertion that fails changes nothing, or spends a handle. -/
theorem Inserting.leaving {blob : Blob} {error : VaultError} (ready : table.Ready next)
    (backed : before.Backed table) (truthful : AllTruthful exchanges table)
    (inserting : Inserting suite blob before exchanges (.failed error) after) :
    Vault.Leaving table before (.insert blob) error (afterAll exchanges table) after := by
  cases inserting with
  | keyless => exact .unchanged
  | unallocated keyed allocating =>
    rcases allocating.of_ready ready truthful with ⟨unchanged, _⟩ | ⟨_, impossible, _⟩
    · rw [unchanged.after]
      exact .unchanged
    · cases impossible
  | @unstored _ _ _ more last keyed allocating updating =>
    rcases allocating.of_ready ready (allTruthful_append.1 truthful).1 with
      ⟨_, failing⟩ | ⟨left, given, rfl⟩
    · exact absurd rfl (failing _)
    cases given
    have stillKeyed : blob.isPrivate = true →
        (before.knowing ⟨next⟩ (.ofPrivacy blob.isPrivate)).masterKey.isSome := keyed
    obtain ⟨isKeyed, isAllocated⟩ := updating.error_ne stillKeyed
    obtain ⟨same, ⟨unchanged, _⟩ | ⟨_, impossible, _⟩⟩ := updating.effect
    · have restored := categories_without_knowing (.ofPrivacy blob.isPrivate)
        (get?_next_eq_none ready backed)
      have memory : last.without ⟨next⟩ = { before with nonces := last.nonces } := by
        rw [same]
        exact congrArg (Memory.mk last.nonces before.masterKey) restored
      rw [memory, afterAll_append, (unchanged _).after, Metadata.afterAll_counting,
        Metadata.toNat_add_one left]
      exact .spent ready.counter isKeyed isAllocated
    · cases impossible

/-- A deletion that fails changes nothing. -/
theorem Deleting.leaving {handle : Handle} {operation : Vault.Operation} {error : VaultError}
    (deleting : Deleting handle before exchanges (.failed error) after) :
    Vault.Leaving table before operation error (afterAll exchanges table) after := by
  generalize fails : Ending.failed error = ending at deleting
  cases deleting with
  | deleted => cases fails
  | undeleted failing =>
    rw [afterAll, after_delete_of_ne failing]
    exact .unchanged

/-- An internal blob that is not stored changes nothing. -/
theorem Noting.leaving {number : UInt32} {value : Bytes} {operation : Vault.Operation}
    {error : VaultError} (noting : Noting number value before exchanges (.failed error) after) :
    Vault.Leaving table before operation error (afterAll exchanges table) after := by
  generalize fails : Ending.failed error = ending at noting
  cases noting with
  | @written reply =>
    have failing : reply ≠ .done () := by
      rintro rfl
      cases fails
    rw [afterAll, after_put_of_ne failing]
    exact .unchanged

/-- Objects that cannot be loaded are not kept in mind. -/
theorem Loading.leaving {category : Category} {operation : Vault.Operation} {error : VaultError}
    (loading : Loading suite category before exchanges (.failed error) after) :
    Vault.Leaving table before operation error (afterAll exchanges table) after := by
  generalize fails : Ending.failed error = ending at loading
  cases loading with
  | unscanned => exact .unchanged
  | loaded => cases fails

/-- A deletion of all objects that fails changes nothing, or has deleted some of them. -/
theorem DeletingAll.leaving {error : VaultError} (ready : table.Ready next)
    (truthful : AllTruthful exchanges table)
    (deleting : DeletingAll before exchanges (.failed error) after) :
    Vault.Leaving table before .deleteAll error (afterAll exchanges table) after := by
  generalize fails : Ending.failed error = ending at deleting
  cases deleting with
  | unscanned => exact .unchanged
  | stopped => cases fails
  | @swept seen swept failures _ scanned sweeping =>
    split at fails
    · cases fails
    · next left =>
      cases fails
      obtain ⟨removed, some, tables, memory, count⟩ := sweeping.removes
      change Vault.Leaving table before .deleteAll _ (afterAll swept table) after
      rw [tables, memory]
      refine .swept (fun blob member => ?_) left (count failures rfl)
      have shown := some.subset member
      rw [truthful.1.2 scanned] at shown
      exact (StoredBlob.mem_filter_isObject ready.canonical).1 shown

end Session

/-- A call that answers an error leaves everything as it was, but for the two exceptions. -/
theorem Vault.Performing.leaving {suite : Suite} {table : Table} {next : UInt32}
    {before after : Memory} {operation : Operation} {exchanges : List Exchange}
    {error : VaultError} (ready : table.Ready next) (backed : before.Backed table)
    (truthful : AllTruthful exchanges table)
    (performing : Performing suite before operation exchanges (.failed error) after) :
    Leaving table before operation error (afterAll exchanges table) after := by
  generalize fails : Ending.failed error = ending at performing
  cases performing with
  | insert inserting =>
    rw [Ending.map_eq_failed.1 fails.symm] at inserting
    exact inserting.leaving ready backed truthful
  | update updating =>
    rw [Ending.map_eq_failed.1 fails.symm] at updating
    obtain ⟨same, ⟨unchanged, _⟩ | ⟨_, impossible, _⟩⟩ := updating.effect
    · rw [same, (unchanged table).after]
      exact .unchanged
    · cases impossible
  | delete deleting =>
    rw [Ending.map_eq_failed.1 fails.symm] at deleting
    exact deleting.leaving
  | deleteAll deleting =>
    rw [Ending.map_eq_failed.1 fails.symm] at deleting
    exact deleting.leaving ready truthful
  | loadPublic loading =>
    rw [Ending.map_eq_failed.1 fails.symm] at loading
    exact loading.leaving
  | loadPrivate loading =>
    rw [Ending.map_eq_failed.1 fails.symm] at loading
    cases loading with
    | keyless => exact .unchanged
    | keyed set loading => exact loading.leaving
  | getInternal recalling =>
    cases recalling
    exact .unchanged
  | setInternal noting =>
    rw [Ending.map_eq_failed.1 fails.symm] at noting
    exact noting.leaving
  | setMasterKey => cases fails
  | unfitKey => exact .unchanged
  | hasMasterKey => cases fails
  | formatVersion => exact .unchanged

namespace Lifetime

variable {situation : Situation} {memory : Memory}

/-- A vault that works is open, and its lock is whole. -/
theorem Situation.exists_of_working (working : situation.standing = .working memory) :
    ∃ vault, situation = .opened vault ∧ vault.poisoned = false ∧
      vault.session.memory = memory := by
  cases situation with
  | closed => cases working
  | opened vault =>
    simp only [Situation.standing] at working
    split at working
    · cases working
    · next whole =>
      cases working
      exact ⟨vault, rfl, Bool.not_eq_true _ ▸ whole, rfl⟩

/-- A vault that is broken is open, and its lock is not whole. -/
theorem Situation.exists_of_broken (broken : situation.standing = .broken memory) :
    ∃ vault, situation = .opened vault ∧ vault.poisoned = true ∧
      vault.session.memory = memory := by
  cases situation with
  | closed => cases broken
  | opened vault =>
    simp only [Situation.standing] at broken
    split at broken
    · next poisoned =>
      cases broken
      exact ⟨vault, rfl, poisoned, rfl⟩
    · cases broken

/-- In every lifetime, whatever fails, a call that answers an error leaves the database and what
the vault has in mind as they were, but for the two exceptions. -/
theorem leaving_of_failed (setting : Setting) (steps : List Step) (disk : Disk)
    (nonces : NonceSupply) :
    ∀ report ∈ reports setting steps (.start disk nonces), ∀ operation error,
      report.step = .operate operation → report.outcome = .answer (.failed error) →
        ∃ before after, report.before = .opened before ∧ report.after = .opened after ∧
          after.poisoned = before.poisoned ∧
          Vault.Leaving report.before.table before.session.memory operation error
            report.after.table after.session.memory := by
  intro report member operation error step outcome
  obtain ⟨coherent, exchanges, yields, history, going⟩ := going_of_mem_reports member
  have agree := coherent.standing
  rw [step, outcome] at going
  rw [table_of_making history]
  generalize earlier : report.before.standing = before, later : report.after.standing = after
    at going agree
  generalize fails : Ending.failed error = ending at going
  cases going with
  | refused =>
    obtain ⟨vault, isOpen, poisoned, rfl⟩ := Situation.exists_of_broken earlier
    obtain ⟨same, stillOpen, stillPoisoned, memory⟩ := Situation.exists_of_broken later
    refine ⟨vault, same, isOpen, stillOpen, by rw [poisoned, stillPoisoned], ?_⟩
    rw [memory]
    exact .unchanged
  | performed performing =>
    subst fails
    obtain ⟨vault, isOpen, whole, rfl⟩ := Situation.exists_of_working earlier
    obtain ⟨other, stillOpen, stillWhole, rfl⟩ := Situation.exists_of_working later
    obtain ⟨⟨next, ready⟩, backed⟩ := agree
    exact ⟨vault, other, isOpen, stillOpen, by rw [whole, stillWhole],
      performing.leaving ready backed yields.truthful⟩

namespace Storing

/-- An object. -/
def blob : Blob := ⟨false, [1, 2, 3]⟩

/-- What is the matter with a database that is full. -/
def full : BackendError := ⟨.io, "full"⟩

/-- A setting in which nothing goes wrong unless a blob is stored, which has some fate. -/
def setting (fate : Fate) : Setting where
  suite := .standard
  root := .memory
  supportsMemory := true
  adversity := {
    fate := fun _ kind key =>
      if kind = .put ∧ (BlobKey.decode? key).isSome then fate else .works
    obstacle := fun _ => none }

/-- The situation before a new database is opened. -/
def start : Situation := .start {} ⟨fun _ => .counting 0, 0⟩

/-- What a program does that stores the object in a new database. -/
def steps : List Step := [.reopen .silent none, .operate (.insert blob)]

/-- What comes of storing it. -/
def report (fate : Fate) : Report :=
  take (setting fate) (.operate (.insert blob))
    (take (setting fate) (.reopen .silent none) start).after

theorem report_mem (fate : Fate) : report fate ∈ reports (setting fate) steps start :=
  .tail _ (.head _)

end Storing

/-- An object for which a database has no room leaves nothing there but a counter that is past its
handle. -/
theorem leaving_full :
    let report := Storing.report (.fails Storing.full 0)
    report.outcome = .answer (.failed (.backend Storing.full)) ∧
      report.after.table.get? MetadataItem.nextHandle.key = some (Bytes.ofText "2") ∧
      ∃ before after, report.before = .opened before ∧ report.after = .opened after ∧
        after.poisoned = before.poisoned ∧
        Vault.Leaving report.before.table before.session.memory (.insert Storing.blob)
          (.backend Storing.full) report.after.table after.session.memory := by
  have outcome : (Storing.report (.fails Storing.full 0)).outcome =
      .answer (.failed (.backend Storing.full)) := by rfl
  exact ⟨outcome, by decide +kernel, leaving_of_failed (Storing.setting (.fails Storing.full 0))
    Storing.steps {} _ _ (Storing.report_mem _) _ _ rfl outcome⟩

end Lifetime

end ObjectVault
