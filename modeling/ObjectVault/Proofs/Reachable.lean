import ObjectVault.Proofs.Coherence

/-!
# Reachable situations

What is so in every situation in which a program can find a vault and its database, if the database
was empty at first. `sound_of_mem_contents` is about the database at every moment, also between
two calls of one operation, and `known_objects_stored` about what an open vault has in mind.
-/

namespace ObjectVault.Lifetime

open Exchange

/-- What is in the database. -/
def Situation.table (situation : Situation) : Table := situation.history.table

/-- What some exchanges leave in the database. -/
theorem table_of_making {before after : Situation} {exchanges : List Exchange}
    (history : after.history = before.history.making exchanges) :
    after.table = afterAll exchanges before.table :=
  congrArg History.table history

/-- Whether a vault and its database agree, and the database has been settled all the time. -/
structure Situation.Coherent (situation : Situation) : Prop where
  standing : situation.standing.Coherent situation.table
  settled : ∀ table ∈ situation.history.contents, table.Settled

/-- At the start the vault and its database agree. -/
theorem coherent_start (disk : Disk) (nonces : NonceSupply) :
    (Situation.start disk nonces).Coherent where
  standing := .inl Table.blank_empty
  settled table member := by
    rw [List.mem_singleton.1 member]
    exact .inl Table.blank_empty

variable {setting : Setting}

/-- They agree after every step. -/
theorem coherent_take (step : Step) (situation : Situation) (coherent : situation.Coherent) :
    (take setting step situation).after.Coherent := by
  obtain ⟨exchanges, yields, history, going⟩ := take_going setting step situation
  obtain ⟨throughout, standing⟩ := going.coherent coherent.standing yields.truthful
  constructor
  · rw [table_of_making history]
    exact standing
  · rw [history]
    exact History.forall_contents_making coherent.settled (throughout.mono fun _ upTo => upTo.1)

/-- Every reachable situation is coherent. -/
theorem coherent_final (setting : Setting) (steps : List Step) (disk : Disk)
    (nonces : NonceSupply) :
    (final setting steps (.start disk nonces)).Coherent :=
  final_induction coherent_take steps (coherent_start disk nonces)

/-- Every step of a lifetime starts in a coherent situation and goes in one of the ways of
`Going`. -/
theorem going_of_mem_reports {steps : List Step} {disk : Disk} {nonces : NonceSupply}
    {report : Report} (member : report ∈ reports setting steps (.start disk nonces)) :
    report.before.Coherent ∧ ∃ exchanges,
      setting.adversity.Yields exchanges report.before.table ∧
      report.after.history = report.before.history.making exchanges ∧
      Going setting report.before.standing report.step exchanges report.outcome
        report.after.standing := by
  obtain ⟨coherent, taken⟩ :=
    reports_induction coherent_take steps (coherent_start disk nonces) member
  have going := take_going setting report.step report.before
  rw [← taken] at going
  exact ⟨coherent, going⟩

/-- At every moment of every lifetime, whatever fails, the database is sound. -/
theorem sound_of_mem_contents (setting : Setting) (steps : List Step) (disk : Disk)
    (nonces : NonceSupply) :
    ∀ table ∈ (final setting steps (.start disk nonces)).history.contents, table.Sound :=
  fun table member => ((coherent_final setting steps disk nonces).settled table member).sound

/-- A setting in which no version is ever written. -/
def unversioned : Setting where
  suite := .standard
  root := .memory
  supportsMemory := true
  adversity := {
    fate := fun _ kind key =>
      if kind = .put ∧ key = MetadataItem.formatVersion.key then .fails ⟨.io, "full"⟩ 0 else .works
    obstacle := fun _ => none }

/-- A database is sound that was left with a counter and without a version. -/
theorem sound_unversioned :
    Table.Sound (SortedMap.insert ∅ MetadataItem.nextHandle.key (Bytes.ofText "1")) :=
  sound_of_mem_contents unversioned [.reopen .silent none] {} (.ofList []) _ (by decide)

/-- Whether what a session knows about objects is so. -/
structure CacheSound (session : Session (World Storage)) (table : Table) : Prop where
  isObject : ∀ {handle category}, session.categories.get? handle = some category →
    category = .publicObject ∨ category = .privateObject
  stored : ∀ {handle category}, session.categories.get? handle = some category →
    table.contains (BlobKey.encode category handle.number) = true
  /-- There is no object with its handle in the other category. -/
  alone : ∀ {handle category other}, session.categories.get? handle = some category →
    other = .publicObject ∨ other = .privateObject → other ≠ category →
      table.contains (BlobKey.encode other handle.number) = false
  below : ∀ {handle category}, session.categories.get? handle = some category →
    ∃ next : UInt32, handle.number < next ∧
      table.get? MetadataItem.nextHandle.key = some (Decimal.render next.toNat)
  /-- There is a master key if a private object is known. -/
  keyed : ∀ {handle}, session.categories.get? handle = some .privateObject →
    session.masterKey.isSome = true

/-- A backed memory of a session whose database is ready is sound. -/
theorem cacheSound_of_backed {session : Session (World Storage)} {table : Table} {next : UInt32}
    (ready : table.Ready next) (backed : session.memory.Backed table) :
    CacheSound session table where
  isObject := by
    intro handle category known
    have isObject := (backed handle category known).1
    cases category with
    | internal => exact absurd rfl isObject
    | publicObject => exact .inl rfl
    | privateObject => exact .inr rfl
  stored known := Table.contains_encode.2 (backed _ _ known).2.1
  alone := by
    intro handle category other known otherIsObject differs
    obtain ⟨isObject, stored, _⟩ := backed handle category known
    rw [← Bool.not_eq_true, Table.contains_encode]
    cases category with
    | internal => exact absurd rfl isObject
    | publicObject =>
      rcases otherIsObject with rfl | rfl
      · exact absurd rfl differs
      · exact ready.exclusive stored
    | privateObject =>
      rcases otherIsObject with rfl | rfl
      · exact fun isPublic => ready.exclusive isPublic stored
      · exact absurd rfl differs
  below := by
    intro handle category known
    obtain ⟨isObject, stored, _⟩ := backed handle category known
    exact ⟨next, UInt32.lt_iff_toNat_lt.2 (ready.below isObject stored).2, ready.counter⟩
  keyed known := (backed _ _ known).2.2 rfl

/-- An update that succeeds writes under a key that is there already. -/
theorem Going.overwrites {setting : Setting} {before after : Standing} {handle : Handle}
    {blob : Blob} {exchanges : List Exchange} {answer : Vault.Answer} {table : Table}
    (coherent : before.Coherent table)
    (going : Going setting before (.operate (.update handle blob)) exchanges
      (.answer (.done answer)) after) :
    ∃ envelope, table.Stores (.ofPrivacy blob.isPrivate) handle.number ∧
      afterAll exchanges table =
        table.insert (BlobKey.encode (.ofPrivacy blob.isPrivate) handle.number) envelope := by
  generalize outcome : Ending.done answer = ending at going
  cases going with
  | refused => cases outcome
  | performed performing =>
    cases performing with
    | @update _ _ _ ending _ updating =>
      obtain ⟨_, ⟨_, failing⟩ | ⟨known, rfl, envelope, rfl⟩⟩ := updating.effect
      · obtain ⟨_, done, _⟩ := Ending.map_eq_done.1 outcome.symm
        exact absurd done failing
      · exact ⟨envelope, (coherent.2 _ _ known).2.1, rfl⟩

/-- In every lifetime, whatever fails, what an open vault whose lock is whole has in mind about
objects is so, and an update that succeeds writes under the key of the object, which is there
already, and creates no other. -/
theorem known_objects_stored (setting : Setting) (steps : List Step) (disk : Disk)
    (nonces : NonceSupply) :
    (∀ vault, final setting steps (.start disk nonces) = .opened vault →
      vault.poisoned = false →
        CacheSound vault.session (final setting steps (.start disk nonces)).table) ∧
    ∀ report ∈ reports setting steps (.start disk nonces), ∀ handle blob answer,
      report.step = .operate (.update handle blob) → report.outcome = .answer (.done answer) →
        let written := BlobKey.encode (.ofPrivacy blob.isPrivate) handle.number
        report.before.table.contains written = true ∧
          (∃ envelope, report.after.table = report.before.table.insert written envelope) ∧
          ∀ key, report.after.table.contains key = report.before.table.contains key := by
  constructor
  · intro vault opened whole
    have coherent := (coherent_final setting steps disk nonces).standing
    rw [opened] at coherent ⊢
    simp only [Situation.standing, whole, Bool.false_eq_true, if_false] at coherent
    obtain ⟨⟨next, ready⟩, backed⟩ := coherent
    exact cacheSound_of_backed ready backed
  · intro report member handle blob answer step outcome written
    obtain ⟨coherent, exchanges, _, history, going⟩ := going_of_mem_reports member
    rw [step, outcome] at going
    obtain ⟨envelope, stored, overwritten⟩ := going.overwrites coherent.standing
    have contained := Table.contains_encode.2 stored
    have after : report.after.table = report.before.table.insert written envelope := by
      rw [Situation.table, history]
      exact overwritten
    refine ⟨contained, ⟨envelope, after⟩, fun key => ?_⟩
    rw [after]
    by_cases same : key = written
    · rw [same, contained]
      simp [SortedMap.contains]
    · rw [SortedMap.contains, SortedMap.get?_insert_of_ne _ _ same]
      rfl

end ObjectVault.Lifetime
