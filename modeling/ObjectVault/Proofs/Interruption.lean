import ObjectVault.Proofs.Absence
import ObjectVault.Proofs.Failure
import ObjectVault.Proofs.Sight

/-!
# What an interruption leaves

A program may stop after any of the exchanges that a call of its vault has with the database, and a
call of the database may panic. `Vault.Underway` says what is in the database at each moment of a
call, from which follows what is seen of it when it is opened again (`Interruptible`): a blob that
is stored or removed on its own is seen as it was or as it is to be, a deletion of all objects has
removed some of them, and the counter has not gone back. The vault whose call panicked is of no use
any more, and does nothing.
-/

namespace ObjectVault

open Exchange

/-- Whether a call stores or removes a single blob. -/
def Vault.Operation.isSingle : Operation → Bool
  | .insert _ | .update _ _ | .delete _ | .setInternal _ _ => true
  | _ => false

namespace Table

variable {table moment : Table}

/-- Whether some of the objects of an earlier database are gone, and nothing else is changed. -/
def SweptFrom (moment table : Table) : Prop :=
  ∃ removed : List StoredBlob, (∀ blob ∈ removed, blob.ObjectOf table) ∧
    moment = table.eraseAll (removed.map StoredBlob.key)

theorem sweptFrom_self (table : Table) : table.SweptFrom table := ⟨[], nofun, rfl⟩

/-- The counter is left alone. -/
theorem SweptFrom.level_eq (swept : moment.SweptFrom table) : moment.level = table.level := by
  obtain ⟨removed, areObjects, rfl⟩ := swept
  have stays : SortedMap.get? (table.eraseAll (removed.map StoredBlob.key))
      MetadataItem.nextHandle.key = table.get? MetadataItem.nextHandle.key := by
    ext value
    rw [SortedMap.get?_eraseAll_eq_some_iff, and_iff_right]
    intro member
    obtain ⟨blob, isRemoved, key⟩ := List.mem_map.1 member
    rw [(areObjects blob isRemoved).key] at key
    exact BlobKey.encode_ne_key _ _ _ key
  rw [level, level, stays]

end Table

/-- What is in the database at a moment of a call, by the table and the number of the counter
before it, the table that it leaves, and how it ends. -/
inductive Vault.Underway (table : Table) (next : UInt32) (left : Table) :
    Operation → Ending Answer → Table → Prop where
  | untouched {operation ending} : Underway table next left operation ending table
  | counted {blob ending} (more : next ≠ Metadata.lastNumber) :
      Underway table next left (.insert blob) ending
        (table.insert MetadataItem.nextHandle.key (Decimal.render (next + 1).toNat))
  | completed {operation answer} (single : operation.isSingle = true) :
      Underway table next left operation (.done answer) left
  | swept {moment ending} (swept : moment.SweptFrom table) :
      Underway table next left .deleteAll ending moment

namespace Vault.Underway

variable {table left moment : Table} {next : UInt32} {operation : Operation}
  {ending : Ending Answer}

/-- While a single blob is stored or removed, the blobs are as they were, or all is done. -/
theorem sameBlobs (single : operation.isSingle = true)
    (underway : Underway table next left operation ending moment) :
    moment.SameBlobs table ∨ (∃ answer, ending = .done answer) ∧ moment = left := by
  cases underway with
  | untouched => exact .inl fun _ _ => rfl
  | counted =>
    exact .inl fun category number =>
      SortedMap.get?_insert_of_ne _ _ (BlobKey.encode_ne_key category number _)
  | completed => exact .inr ⟨⟨_, rfl⟩, rfl⟩
  | swept => cases single

/-- While all objects are deleted, some of them are gone, and nothing else is changed. -/
theorem sweptFrom (underway : Underway table next left .deleteAll ending moment) :
    moment.SweptFrom table := by
  cases underway with
  | untouched => exact table.sweptFrom_self
  | completed single => cases single
  | swept swept => exact swept

/-- The counter never stands lower during a call than before, if it does not in the end. -/
theorem level_le (ready : table.Ready next) (le : table.level ≤ left.level)
    (underway : Underway table next left operation ending moment) :
    table.level ≤ moment.level := by
  cases underway with
  | untouched => exact Nat.le_refl _
  | counted more =>
    rw [ready.level, (ready.advance more).level, Metadata.toNat_add_one more]
    exact Nat.le_succ _
  | completed => exact le
  | swept swept => exact Nat.le_of_eq swept.level_eq.symm

end Vault.Underway

namespace Session

variable {suite : Suite} {table : Table} {next : UInt32} {before after : Memory}
  {exchanges : List Exchange}

/-- While blobs are deleted one by one, some of them are gone. -/
theorem Sweeping.throughout {blobs : List StoredBlob} {ending : Ending Nat}
    (sweeping : Sweeping blobs before exchanges ending after) :
    Throughout (fun moment => ∃ removed, List.Sublist removed blobs ∧
      moment = table.eraseAll (removed.map StoredBlob.key)) exchanges table := by
  have nothing {table : Table} {blobs : List StoredBlob} :
      ∃ removed, List.Sublist removed blobs ∧
        table = table.eraseAll (removed.map StoredBlob.key) :=
    ⟨[], List.nil_sublist _, rfl⟩
  induction sweeping generalizing table with
  | finished => exact nothing
  | @deleted blob rest before exchanges ending after sweeping ih =>
    refine ⟨nothing, ih.mono ?_⟩
    rintro moment ⟨removed, some, rfl⟩
    exact ⟨blob :: removed, some.cons_cons _, rfl⟩
  | @kept blob rest before exchanges error ending after sweeping ih =>
    refine ⟨nothing, ih.mono ?_⟩
    rintro moment ⟨removed, some, rfl⟩
    exact ⟨removed, some.cons _, rfl⟩
  | stopped => exact ⟨nothing, nothing⟩

/-- While all objects are deleted, some of them are gone. -/
theorem DeletingAll.throughout {ending : Ending Unit} (ready : table.Ready next)
    (truthful : AllTruthful exchanges table)
    (deleting : DeletingAll before exchanges ending after) :
    Throughout (fun moment => moment.SweptFrom table) exchanges table := by
  have nothing := table.sweptFrom_self
  have swept {seen : Scan} {more : List Exchange} {swept : Ending Nat}
      (complete : seen.visited = table.entries)
      (sweeping : Sweeping ((StoredBlob.among seen.visited).filter StoredBlob.isObject) before
        more swept after) :
      Throughout (fun moment => moment.SweptFrom table) more table := by
    rw [complete] at sweeping
    refine sweeping.throughout.mono ?_
    rintro moment ⟨removed, some, rfl⟩
    exact ⟨removed, fun blob member =>
      (StoredBlob.mem_filter_isObject ready.canonical).1 (some.subset member), rfl⟩
  cases deleting with
  | unscanned => exact ⟨nothing, nothing⟩
  | stopped scanned sweeping => exact ⟨nothing, swept (truthful.1.2 scanned) sweeping⟩
  | swept scanned sweeping => exact ⟨nothing, swept (truthful.1.2 scanned) sweeping⟩

end Session

/-- At every moment of a call there is in the database what `Underway` says. -/
theorem Vault.Performing.underway {suite : Suite} {table : Table} {next : UInt32}
    {before after : Memory} {operation : Operation} {exchanges : List Exchange}
    {ending : Ending Answer} (ready : table.Ready next) (backed : before.Backed table)
    (truthful : AllTruthful exchanges table)
    (performing : Performing suite before operation exchanges ending after) :
    Throughout (Underway table next (afterAll exchanges table) operation ending) exchanges
      table := by
  have unchanged {operation : Operation} {ending : Ending Answer} {left : Table}
      {exchanges : List Exchange}
      (same : Throughout (fun other => other = table) exchanges table) :
      Throughout (Underway table next left operation ending) exchanges table :=
    same.mono fun _ here => here ▸ .untouched
  cases performing with
  | insert inserting =>
    cases inserting.placing ready backed truthful with
    | refused quiet same => exact unchanged same
    | spent more target same =>
      refine ⟨.untouched, .untouched, (same _).mono ?_⟩
      rintro _ rfl
      exact .counted more
    | stored more => exact ⟨.untouched, .untouched, .counted more, .completed rfl⟩
  | update updating =>
    obtain ⟨_, ⟨same, _⟩ | ⟨_, rfl, envelope, rfl⟩⟩ := updating.effect
    · exact unchanged (same table)
    · exact ⟨.untouched, .completed rfl⟩
  | delete deleting =>
    cases deleting with
    | deleted => exact ⟨.untouched, .completed rfl⟩
    | undeleted failing => exact unchanged ⟨rfl, after_delete_of_ne failing⟩
  | deleteAll deleting =>
    exact (deleting.throughout ready truthful).mono fun _ swept => .swept swept
  | loadPublic loading => cases loading <;> exact unchanged ⟨rfl, rfl⟩
  | loadPrivate loading =>
    cases loading with
    | keyless => exact .untouched
    | keyed set loading => cases loading <;> exact unchanged ⟨rfl, rfl⟩
  | getInternal recalling =>
    cases recalling
    exact unchanged ⟨rfl, rfl⟩
  | setInternal noting =>
    cases noting with
    | @written reply =>
      by_cases works : reply = .done ()
      · subst works
        exact ⟨.untouched, .completed rfl⟩
      · exact unchanged ⟨rfl, after_put_of_ne works⟩
  | setMasterKey => exact .untouched
  | unfitKey => exact .untouched
  | hasMasterKey => exact .untouched
  | formatVersion => exact unchanged ⟨rfl, rfl⟩

/-- Whether the counter of a database stands where that of an earlier one stood, or further on. -/
def Table.NotBelow (table earlier : Table) : Prop :=
  ∃ first last : UInt32, first ≤ last ∧
    earlier.get? MetadataItem.nextHandle.key = some (Decimal.render first.toNat) ∧
      table.get? MetadataItem.nextHandle.key = some (Decimal.render last.toNat)

/-- A counter that stands is not below one that stood lower. -/
theorem Table.Ready.notBelow {table earlier : Table} {first last : UInt32}
    (earlierReady : earlier.Ready first) (ready : table.Ready last)
    (le : earlier.level ≤ table.level) : table.NotBelow earlier := by
  rw [earlierReady.level, ready.level] at le
  exact ⟨first, last, UInt32.le_iff_toNat_le.2 le, earlierReady.counter, ready.counter⟩

namespace Lifetime

/-- Whether the same is seen of two databases, under every master key. -/
def SeenAlike (setting : Setting) (table other : Table) : Prop :=
  ∀ masterKey, ∃ sight, Sees setting masterKey table sight ∧ Sees setting masterKey other sight

/-- The same is seen of two initialized databases with the same blobs. -/
theorem seenAlike_of_sameBlobs {setting : Setting} {table other : Table} {next number : UInt32}
    (ready : table.Ready next) (otherReady : other.Ready number) (same : table.SameBlobs other) :
    SeenAlike setting table other := by
  intro masterKey
  refine ⟨_, sees_sight ready setting masterKey, ?_⟩
  rw [same.sight_eq ready.canonical otherReady.canonical]
  exact sees_sight otherReady setting masterKey

/-- What an interruption of a call leaves, at whatever moment of it the program stops, and if a call
of the database panics. -/
structure Interruptible (setting : Setting) (operation : Vault.Operation) (report : Report) :
    Prop where
  /-- If a single blob is stored or removed, what is seen when the vault is opened again is what
  was seen before, or what is seen when all is done. -/
  atomic : operation.isSingle = true → ∀ moment ∈ report.contents,
    SeenAlike setting moment report.before.table ∨
      (∃ answer, report.outcome = .answer (.done answer)) ∧
        SeenAlike setting moment report.after.table
  /-- If all objects are deleted, some of them are missing from what was seen before. -/
  swept : operation = .deleteAll → ∀ moment ∈ report.contents, ∃ handles, ∀ masterKey, ∃ earlier,
    Sees setting masterKey report.before.table earlier ∧
      Sees setting masterKey moment (earlier.without handles)
  counter : ∀ moment ∈ report.contents, moment.NotBelow report.before.table
  /-- After a panic every further call of the vault is refused, and changes nothing, not even what
  is on record of the calls of the database. -/
  poisoned : report.outcome = .answer .panicked → ∀ operations : List Vault.Operation,
    ∀ further ∈ reports setting (operations.map .operate) report.after,
      further.after = report.after ∧ ∃ operation, further.step = .operate operation ∧
        further.outcome = .answer (.failed operation.refusal)

namespace Going

variable {setting : Setting} {operation : Vault.Operation} {exchanges : List Exchange}
  {outcome : Outcome} {before after : Standing} {table : Table}

/-- At every moment of a call of an open vault the database is ready, and there is in it what
`Underway` says. -/
theorem underway (isOpen : ∀ nonces, before ≠ .closed nonces) (coherent : before.Coherent table)
    (truthful : AllTruthful exchanges table)
    (going : Going setting before (.operate operation) exchanges outcome after) :
    ∃ next ending, table.Ready next ∧ outcome = .answer ending ∧
      table.level ≤ (afterAll exchanges table).level ∧
      Throughout (fun moment => (∃ number, moment.Ready number) ∧
        Vault.Underway table next (afterAll exchanges table) operation ending moment) exchanges
        table := by
  have level := (going.coherent coherent truthful).1.before.2
  cases going with
  | idle => exact absurd rfl (isOpen _)
  | refused =>
    obtain ⟨next, ready⟩ := coherent
    exact ⟨next, _, ready, rfl, level, ⟨next, ready⟩, .untouched⟩
  | performed performing =>
    obtain ⟨⟨next, ready⟩, backed⟩ := coherent
    obtain ⟨later, orderly⟩ := performing.orderly ready backed truthful
    refine ⟨next, _, ready, rfl, level, .and ?_ (performing.underway ready backed truthful)⟩
    exact orderly.throughout.mono fun moment ⟨number, _, isReady⟩ => ⟨number, isReady⟩

/-- A call that panics breaks the lock. -/
theorem broken
    (going : Going setting before (.operate operation) exchanges (.answer .panicked) after) :
    ∃ memory, after = .broken memory := by
  generalize panics : Ending.panicked = ending at going
  cases going with
  | refused => cases panics
  | performed =>
    subst panics
    exact ⟨_, rfl⟩

end Going

theorem Situation.standing_opened_ne (vault : Vault (World Storage)) (nonces : NonceSupply) :
    (Situation.opened vault).standing ≠ .closed nonces := by
  simp only [Situation.standing]
  split <;> simp

/-- A vault whose lock is broken refuses every call, and nothing is changed. -/
theorem refused_of_poisoned (setting : Setting) {vault : Vault (World Storage)}
    (poisoned : vault.poisoned = true) (operations : List Vault.Operation) :
    ∀ report ∈ reports setting (operations.map .operate) (.opened vault),
      report.after = .opened vault ∧ ∃ operation, report.step = .operate operation ∧
        report.outcome = .answer (.failed operation.refusal) := by
  intro report member
  induction operations with
  | nil => cases member
  | cons operation rest ih =>
    obtain ⟨same, refused⟩ :=
      Vault.perform_refused setting.services operation ⟨vault, {}⟩ poisoned
    have after : (take setting (.operate operation) (.opened vault)).after = .opened vault :=
      congrArg Situation.opened same
    rw [List.map_cons, reports, after] at member
    rcases List.mem_cons.1 member with rfl | later
    · exact ⟨after, operation, rfl, congrArg Outcome.answer refused⟩
    · exact ih later

/-- In every lifetime, whatever fails, a call of an open vault may be interrupted at any moment. -/
theorem interruptible_of_mem_reports (setting : Setting) (steps : List Step) (disk : Disk)
    (nonces : NonceSupply) :
    ∀ report ∈ reports setting steps (.start disk nonces), ∀ vault operation,
      report.before = .opened vault → report.step = .operate operation →
        Interruptible setting operation report := by
  intro report member vault operation isOpen step
  obtain ⟨coherent, exchanges, yields, history, going⟩ := going_of_mem_reports member
  have stands (nonces : NonceSupply) : report.before.standing ≠ .closed nonces := by
    rw [isOpen]
    exact Situation.standing_opened_ne vault nonces
  rw [step] at going
  obtain ⟨next, ending, ready, answered, level, throughout⟩ :=
    going.underway stands coherent.standing yields.truthful
  rw [← table_of_making history] at level throughout
  have moments := Report.forall_contents history throughout
  -- A vault that is opened at a moment shows the table of the moment, so that all but the last part
  -- is about that table.
  constructor
  · intro single moment member
    obtain ⟨⟨number, momentReady⟩, underway⟩ := moments moment member
    rcases underway.sameBlobs single with same | ⟨⟨answer, done⟩, rfl⟩
    · exact .inl (seenAlike_of_sameBlobs momentReady ready same)
    · refine .inr ⟨⟨answer, done ▸ answered⟩, ?_⟩
      exact seenAlike_of_sameBlobs momentReady momentReady fun _ _ => rfl
  · rintro rfl moment member
    obtain ⟨⟨number, momentReady⟩, underway⟩ := moments moment member
    obtain ⟨removed, areObjects, rfl⟩ := underway.sweptFrom
    refine ⟨removed.map StoredBlob.handle, fun masterKey => ⟨_, sees_sight ready _ masterKey, ?_⟩⟩
    rw [← ready.sight_eraseAll areObjects]
    exact sees_sight momentReady setting masterKey
  · intro moment member
    obtain ⟨⟨number, momentReady⟩, underway⟩ := moments moment member
    exact ready.notBelow momentReady (underway.level_le ready level)
  · intro panicked operations
    rw [panicked] at going
    obtain ⟨memory, broken⟩ := going.broken
    obtain ⟨later, stillOpen, poisoned, _⟩ := Situation.exists_of_broken broken
    rw [stillOpen]
    exact refused_of_poisoned setting poisoned operations

/-- A panic while an object is stored leaves a vault that refuses every call and a database in which
the object is not seen. -/
theorem interruptible_storing :
    let report := Storing.report (.panics 0)
    report.outcome = .answer .panicked ∧ (∃ vault, report.before = .opened vault) ∧
      Interruptible (Storing.setting (.panics 0)) (.insert Storing.blob) report := by
  have isOpen : ∃ vault, (Storing.report (.panics 0)).before = .opened vault := ⟨_, rfl⟩
  obtain ⟨vault, before⟩ := isOpen
  exact ⟨rfl, ⟨vault, before⟩, interruptible_of_mem_reports (Storing.setting (.panics 0))
    Storing.steps {} _ _ (Storing.report_mem _) vault _ before rfl⟩

end Lifetime

end ObjectVault
