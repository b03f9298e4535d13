import ObjectVault.Proofs.Conduct.Recovery
import ObjectVault.Proofs.Handles
import ObjectVault.Proofs.Sight

/-!
# Initialization

A database is initialized once, by the first attempt to open it that succeeds (`initialized_once`).
Until then it is blank, however many attempts were broken off and wherever, so that the next attempt
goes on where they stopped without harm (`uninitialized_take`). From then on it has a version, by
which every later attempt knows that there is nothing to write (`initialized_take`).
-/

namespace ObjectVault

open Exchange

/-- All that is in a database that has just been initialized. -/
def Table.initial : List (Bytes × Bytes) :=
  [(Bytes.ofText "DBVersion", Bytes.ofText "1"), (Bytes.ofText "NextBlobID", Bytes.ofText "1")]

/-- A blank database is empty, or has nothing but the counter at the first handle. -/
theorem Table.Blank.eq_or {table : Table} (blank : table.Blank) :
    table = ∅ ∨ table = SortedMap.insert ∅ MetadataItem.nextHandle.key
      (Decimal.render Metadata.firstHandle.toNat) := by
  have elsewhere {key : Bytes} (other : key ≠ MetadataItem.nextHandle.key) :
      table.get? key = none := by
    cases stored : table.get? key with
    | none => rfl
    | some value => exact absurd (blank.only key value stored) other
  cases counter : table.get? MetadataItem.nextHandle.key with
  | none =>
    refine .inl (SortedMap.ext_get? fun key => ?_)
    by_cases same : key = MetadataItem.nextHandle.key
    · rw [same, counter]
      rfl
    · rw [elsewhere same]
      rfl
  | some value =>
    refine .inr (SortedMap.ext_get? fun key => ?_)
    by_cases same : key = MetadataItem.nextHandle.key
    · rw [same, counter, blank.counter value counter, SortedMap.get?_insert_self]
    · rw [elsewhere same, SortedMap.get?_insert_of_ne _ _ same]
      rfl

/-- The metadata written to a blank database is all that is in it. -/
theorem Table.Blank.entries_eq {table : Table} (blank : table.Blank) :
    ((table.insert MetadataItem.nextHandle.key (Decimal.render Metadata.firstHandle.toNat)).insert
      MetadataItem.formatVersion.key (Decimal.render Metadata.formatVersion.toNat)).entries =
        Table.initial := by
  rcases blank.eq_or with rfl | rfl
  · decide
  · decide

namespace Metadata.Initializing

variable {table : Table} {exchanges : List Exchange} {ending : Ending Bool}

/-- A blank database is new if it can be initialized, and is still blank if it cannot. -/
theorem blank_or_new (blank : table.Blank) (truthful : AllTruthful exchanges table)
    (initializing : Initializing exchanges ending) :
    ((∀ isNew, ending ≠ .done isNew) ∧ (afterAll exchanges table).Blank) ∨
      (ending = .done true ∧ (afterAll exchanges table).Ready firstHandle ∧
        (afterAll exchanges table).entries = Table.initial) := by
  cases initializing with
  | unknown => exact .inl ⟨by simp, blank⟩
  | stopped => exact .inl ⟨by simp, blank⟩
  | already =>
    have stored : some _ = table.get? MetadataItem.formatVersion.key := truthful.1
    cases BlobKey.key_inj.1 (blank.only _ _ stored.symm)
  | settingUp setting =>
    cases setting with
    | @uncounted written unwritten =>
      rw [afterAll, afterAll, after_put_of_ne unwritten]
      refine .inl ⟨?_, blank⟩
      cases written with
      | done => exact absurd rfl unwritten
      | failed error => simp [Reply.ending, initialization]
      | panicked => simp [Reply.ending, initialization]
    | @counted written =>
      -- The version is written last, so a failure before that leaves at most the counter behind,
      -- at the number to which the next attempt sets it as well.
      cases written with
      | done =>
        exact .inr ⟨rfl, blank.count.ready (SortedMap.get?_insert_self _ _ _), blank.entries_eq⟩
      | failed error => exact .inl ⟨by simp [Reply.ending, initialization], blank.count⟩
      | panicked => exact .inl ⟨by simp [Reply.ending, initialization], blank.count⟩

/-- In a database that has a version nothing but that is read. -/
theorem reads {next : UInt32} (ready : table.Ready next) (truthful : AllTruthful exchanges table)
    (initializing : Initializing exchanges ending) :
    (∃ reply, exchanges = [.get MetadataItem.formatVersion.key reply]) ∧
      ∀ isNew, ending = .done isNew → isNew = false := by
  cases initializing with
  | unknown => exact ⟨⟨_, rfl⟩, by simp⟩
  | stopped => exact ⟨⟨_, rfl⟩, by simp⟩
  | already => exact ⟨⟨_, rfl⟩, by simp⟩
  | settingUp setting =>
    have absent : none = table.get? MetadataItem.formatVersion.key := truthful.1
    rw [ready.version] at absent
    cases absent

end Metadata.Initializing

namespace Opening

variable {unhindered : Prop} {table : Table} {exchanges : List Exchange}
  {ending : Ending (Opened Unit)}

/-- A blank database is new if it can be opened, and is still blank if it cannot. -/
theorem blank_or_new (blank : table.Blank) (truthful : AllTruthful exchanges table)
    (opening : Opening unhindered exchanges ending) :
    ((∀ opened, ending ≠ .done opened) ∧ (afterAll exchanges table).Blank) ∨
      ∃ recovery, ending = .done ⟨(), recovery, true⟩ ∧
        (afterAll exchanges table).Ready Metadata.firstHandle ∧
          (afterAll exchanges table).entries = Table.initial := by
  cases opening with
  | refused hindered => exact .inl ⟨by simp, blank⟩
  | @initializing recovery _ ending direct initializing =>
    rcases initializing.blank_or_new blank truthful with ⟨failing, blank⟩ | ⟨rfl, initialized⟩
    · refine .inl ⟨fun opened done => ?_, blank⟩
      obtain ⟨isNew, impossible, _⟩ := Ending.map_eq_done.1 done
      exact failing isNew impossible
    · exact .inr ⟨recovery, rfl, initialized⟩

/-- If nothing hinders it, a blank database is opened and is new. -/
theorem of_blank (smooth : unhindered) (blank : table.Blank)
    (truthful : AllTruthful exchanges table) (succeed : ∀ exchange ∈ exchanges, exchange.Succeeds)
    (opening : Opening unhindered exchanges ending) : ending = .done ⟨(), .opened, true⟩ := by
  cases opening with
  | refused hindered => exact absurd smooth hindered
  | initializing direct initializing =>
    cases direct smooth
    obtain ⟨rfl, _⟩ := initializing.of_blank blank truthful succeed
    rfl

/-- A database that has a version is not written to, and is not new. -/
theorem reads {next : UInt32} (ready : table.Ready next) (truthful : AllTruthful exchanges table)
    (opening : Opening unhindered exchanges ending) :
    (∀ exchange ∈ exchanges, ∃ key reply, exchange = .get key reply) ∧
      afterAll exchanges table = table ∧
        ∀ opened, ending = .done opened → opened.isNew = false := by
  cases opening with
  | refused hindered => exact ⟨by simp, rfl, by simp⟩
  | initializing direct initializing =>
    obtain ⟨⟨reply, rfl⟩, old⟩ := initializing.reads ready truthful
    refine ⟨fun exchange member => ⟨_, _, List.mem_singleton.1 member⟩, rfl, fun opened done => ?_⟩
    obtain ⟨isNew, ended, rfl⟩ := Ending.map_eq_done.1 done
    exact old isNew ended

end Opening

/-- Whether an error is the one of an attempt to open a database: that there are no databases in
memory if it would have to be one, and else that it could not be brought up. -/
def Recovery.Refused (root : Location) (supportsMemory : Bool) (error : VaultError) : Prop :=
  if root.isMemory = true ∧ supportsMemory = false then
    error = .unsupportedEnvironment
      ("location " ++ root.message ++ " requires in-memory database support")
  else ∃ reason, error = .initializationFailed reason

/-- An attempt to open a database that fails says so. -/
theorem Recovery.refused_of_bringUp {σ η : Type} {engine : Engine σ η} {sink : EventSink}
    {root : Location} {machine : Machine (World σ)} {error : VaultError}
    (fails : ((bringUp engine sink root).run machine).1 = .failed error) :
    Refused root engine.supportsMemory error := by
  unfold Refused
  split
  · next lacking =>
    simp only [bringUp, lacking.1, lacking.2, Bool.not_false, Bool.and_self, if_true,
      Action.run_bind, Action.run_log, Action.run_fail] at fails
    cases fails
    rfl
  · next supported =>
    obtain ⟨errors, bringing⟩ := bringUp_conduct engine sink root machine
    rw [fails] at bringing
    generalize outcome : Ending.failed error = ending,
      ((bringUp engine sink root).run machine).2.state = later at bringing
    cases bringing with
    | unsupported inMemory lacking => exact absurd ⟨inMemory, lacking⟩ supported
    | unopened staging =>
      cases outcome
      cases staging
      exact ⟨_, rfl⟩
    | opened => cases outcome
    | closed staging makes initializing failing =>
      cases initializing with
      | unknown =>
        cases outcome
        exact ⟨_, rfl⟩
      | stopped => cases outcome
      | already => cases outcome
      | @settingUp _ ending setting =>
        cases ending with
        | done => cases outcome
        | failed =>
          cases outcome
          exact ⟨_, rfl⟩
        | panicked => cases outcome

namespace Lifetime

/-- The vault that an attempt to open one yields. -/
def Report.opened? (report : Report) : Option (Opened Unit) :=
  match report.outcome with
  | .opening (.done opened) => some opened
  | _ => none

theorem Report.opened?_eq_some_iff {report : Report} {opened : Opened Unit} :
    report.opened? = some opened ↔ report.outcome = .opening (.done opened) := by
  unfold opened?
  split
  · next other isOutcome => simp [isOutcome]
  · next other => simpa using other opened

/-- Whether there was no vault yet, and is none. -/
structure Situation.Uninitialized (situation : Situation) : Prop where
  closed : ∃ nonces, situation.standing = .closed nonces
  blank : situation.table.Blank

/-- Whether there was a vault already. -/
structure Situation.Initialized (situation : Situation) : Prop where
  coherent : situation.standing.Coherent situation.table
  ready : ∃ next, situation.table.Ready next

/-- Whether nothing was written to the database in a step. -/
structure Report.Unwritten (report : Report) : Prop where
  reads : ∀ entry ∈ report.entries, ∃ key reply, entry.exchange = .get key reply
  same : report.after.table = report.before.table

variable {setting : Setting}

/-- A step that opens no vault leaves the database uninitialized, and the vault that is opened by
any other step is new. -/
theorem uninitialized_take (setting : Setting) {situation : Situation}
    (uninitialized : situation.Uninitialized) (step : Step) :
    ((take setting step situation).opened? = none ∧
        (take setting step situation).after.Uninitialized) ∨
      ∃ opened, (take setting step situation).opened? = some opened ∧ opened.isNew = true ∧
        (take setting step situation).after.table.entries = Table.initial ∧
          (take setting step situation).after.Initialized := by
  obtain ⟨exchanges, yields, history, going⟩ := take_going setting step situation
  have before := take_before setting step situation
  generalize take setting step situation = report at history going before ⊢
  subst before
  have left := table_of_making history
  have truthful : AllTruthful exchanges report.before.table := yields.truthful
  obtain ⟨nonces, closed⟩ := uninitialized.closed
  rw [closed] at going
  generalize isOutcome : report.outcome = outcome, standing : report.after.standing = after at going
  cases going with
  | idle =>
    refine .inl ⟨?_, ⟨_, standing⟩, left ▸ uninitialized.blank⟩
    simp [Option.eq_none_iff_forall_ne_some, Report.opened?_eq_some_iff, isOutcome]
  | unopened opening failing =>
    rcases opening.blank_or_new uninitialized.blank truthful with ⟨_, blank⟩ | ⟨_, done, _⟩
    · refine .inl ⟨?_, ⟨_, standing⟩, left ▸ blank⟩
      simp [Option.eq_none_iff_forall_ne_some, Report.opened?_eq_some_iff, isOutcome, failing]
    · exact absurd done (failing _)
  | opened opening =>
    rcases opening.blank_or_new uninitialized.blank truthful with
      ⟨failing, _⟩ | ⟨recovery, done, ready, entries⟩
    · exact absurd rfl (failing _)
    · cases done
      refine .inr ⟨_, Report.opened?_eq_some_iff.2 isOutcome, rfl, left ▸ entries, ?_,
        left ▸ ⟨_, ready⟩⟩
      rw [standing, left]
      exact ⟨⟨_, ready⟩, Memory.Backed.empty _ _ _⟩

/-- A database keeps its metadata in every step. -/
theorem Going.ready {before after : Standing} {step : Step} {exchanges : List Exchange}
    {outcome : Outcome} {table : Table} {next : UInt32} (ready : table.Ready next)
    (coherent : before.Coherent table) (truthful : AllTruthful exchanges table)
    (going : Going setting before step exchanges outcome after) :
    ∃ later, (afterAll exchanges table).Ready later := by
  cases going with
  | idle => exact ⟨next, ready⟩
  | refused => exact ⟨next, ready⟩
  | performed performing =>
    obtain ⟨later, orderly⟩ := performing.orderly ready coherent.2 truthful
    exact ⟨later, orderly.ready⟩
  | unopened opening =>
    rw [(opening.reads ready truthful).2.1]
    exact ⟨next, ready⟩
  | opened opening =>
    rw [(opening.reads ready truthful).2.1]
    exact ⟨next, ready⟩

/-- Once there was a vault, a step that opens one writes nothing, and opens no new one. -/
theorem initialized_take (setting : Setting) {situation : Situation}
    (initialized : situation.Initialized) (step : Step) :
    (take setting step situation).after.Initialized ∧
      ∀ opened, (take setting step situation).opened? = some opened →
        opened.isNew = false ∧ (take setting step situation).Unwritten := by
  obtain ⟨exchanges, yields, history, going⟩ := take_going setting step situation
  have before := take_before setting step situation
  generalize take setting step situation = report at history going before ⊢
  subst before
  have left := table_of_making history
  have truthful : AllTruthful exchanges report.before.table := yields.truthful
  obtain ⟨next, ready⟩ := initialized.ready
  refine ⟨⟨?_, ?_⟩, fun opened opens => ?_⟩
  · rw [left]
    exact (going.coherent initialized.coherent truthful).2
  · rw [left]
    exact going.ready ready initialized.coherent truthful
  · rw [Report.opened?_eq_some_iff.1 opens] at going
    generalize report.before.standing = standing, report.after.standing = after at going
    cases going with
    | unopened opening failing => exact absurd rfl (failing _)
    | opened opening =>
      obtain ⟨reads, same, old⟩ := opening.reads ready truthful
      refine ⟨old opened rfl, fun entry member => ?_, left.trans same⟩
      rw [entries_of_making history] at member
      exact reads _ (exchange_mem_of_mem_entries member)

/-- At the start no vault has been opened, and the database is blank. -/
theorem uninitialized_start (disk : Disk) (nonces : NonceSupply) :
    (Situation.start disk nonces).Uninitialized :=
  ⟨⟨nonces, rfl⟩, Table.blank_empty⟩

/-- What is so of every step that opens a vault: nothing is in the database but its metadata if the
vault is new, and nothing is written to it if not. -/
structure Report.Sparing (report : Report) : Prop where
  metadata : ∀ opened, report.opened? = some opened → opened.isNew = true →
    report.after.table.entries = Table.initial
  unwritten : ∀ opened, report.opened? = some opened → opened.isNew = false → report.Unwritten

/-- How some steps go that begin before the first vault is opened. -/
inductive Openings (setting : Setting) (steps : List Step) (situation : Situation) : Prop where
  | none (unopened : (reports setting steps situation).filterMap Report.opened? = [])
      (final : (final setting steps situation).Uninitialized)
  | some {opened others}
      (opens : (reports setting steps situation).filterMap Report.opened? = opened :: others)
      (isNew : opened.isNew = true) (old : ∀ other ∈ others, other.isNew = false)
      (final : (final setting steps situation).Initialized)

/-- Once there was a vault, none of some steps opens a new one. -/
theorem isNew_of_initialized (setting : Setting) {situation : Situation}
    (initialized : situation.Initialized) (steps : List Step) :
    (∀ opened ∈ (reports setting steps situation).filterMap Report.opened?,
      opened.isNew = false) ∧ (final setting steps situation).Initialized := by
  induction steps generalizing situation with
  | nil => exact ⟨by simp [reports], initialized⟩
  | cons step rest ih =>
    obtain ⟨after, old⟩ := initialized_take setting initialized step
    obtain ⟨later, final⟩ := ih after
    refine ⟨fun opened member => ?_, final⟩
    obtain ⟨report, among, opens⟩ := List.mem_filterMap.1 member
    rcases List.mem_cons.1 among with rfl | among
    · exact (old opened opens).1
    · exact later opened (List.mem_filterMap.2 ⟨report, among, opens⟩)

/-- The first vault that is opened is new, and no other one is. -/
theorem openings_of_uninitialized (setting : Setting) {situation : Situation}
    (uninitialized : situation.Uninitialized) (steps : List Step) :
    Openings setting steps situation := by
  induction steps generalizing situation with
  | nil => exact .none rfl uninitialized
  | cons step rest ih =>
    rcases uninitialized_take setting uninitialized step with
      ⟨unopened, after⟩ | ⟨opened, opens, isNew, _, after⟩
    · cases ih after with
      | none none final =>
        exact .none (by rw [reports, List.filterMap_cons_none unopened, none]) final
      | some opens isNew old final =>
        exact .some (by rw [reports, List.filterMap_cons_none unopened, opens]) isNew old final
    · -- From here on the database has a version, and the other invariant takes over.
      obtain ⟨old, final⟩ := isNew_of_initialized setting after rest
      exact .some (List.filterMap_cons_some opens) isNew old final

/-- Whether a database is initialized by the first attempt of some steps to open it that
succeeds. -/
structure InitializedOnce (setting : Setting) (steps : List Step) (situation : Situation) :
    Prop where
  first : ∀ opened, ((reports setting steps situation).filterMap Report.opened?).head? =
    some opened → opened.isNew = true
  later : ∀ opened ∈ ((reports setting steps situation).filterMap Report.opened?).tail,
    opened.isNew = false
  /-- With a new vault there are only the metadata in the database. -/
  metadata : ∀ report ∈ reports setting steps situation, ∀ opened,
    report.opened? = some opened → opened.isNew = true → report.after.table.entries = Table.initial
  /-- To open one that is not new, nothing is written to the database. -/
  unwritten : ∀ report ∈ reports setting steps situation, ∀ opened,
    report.opened? = some opened → opened.isNew = false → report.Unwritten
  /-- An attempt that fails says so. -/
  refused : ∀ report ∈ reports setting steps situation, ∀ error,
    report.outcome = .opening (.failed error) →
      Recovery.Refused setting.root setting.supportsMemory error
  /-- Whatever was broken off, the next attempt that nothing hinders succeeds, and the vault is new
  if it is the first one. -/
  finished : ∀ sink masterKey,
    (take setting.calm (.reopen sink masterKey) (final setting steps situation)).opened? =
      some ⟨(), .opened, ((reports setting steps situation).filterMap Report.opened?).isEmpty⟩

/-- Whether there was no vault yet, or there was one already. -/
def Situation.Phased (situation : Situation) : Prop :=
  situation.Uninitialized ∨ situation.Initialized

/-- Every step spares the database, and there is a vault or there is none yet after it. -/
theorem sparing_take (step : Step) (situation : Situation) (phased : situation.Phased) :
    (take setting step situation).Sparing ∧ (take setting step situation).after.Phased := by
  rcases phased with uninitialized | initialized
  · rcases uninitialized_take setting uninitialized step with
      ⟨unopened, after⟩ | ⟨opened, opens, isNew, entries, after⟩
    · exact ⟨⟨by simp [unopened], by simp [unopened]⟩, .inl after⟩
    · refine ⟨⟨fun _ _ _ => entries, fun other alsoOpens old => ?_⟩, .inr after⟩
      cases opens.symm.trans alsoOpens
      rw [isNew] at old
      cases old
  · obtain ⟨after, spares⟩ := initialized_take setting initialized step
    refine ⟨⟨fun opened opens isNew => ?_, fun opened opens _ => (spares opened opens).2⟩,
      .inr after⟩
    rw [(spares opened opens).1] at isNew
    cases isNew

/-- An attempt that fails says so. -/
theorem refused_take (step : Step) (situation : Situation) {error : VaultError}
    (refused : (take setting step situation).outcome = .opening (.failed error)) :
    Recovery.Refused setting.root setting.supportsMemory error := by
  cases step with
  | reopen sink masterKey => exact Recovery.refused_of_bringUp (Outcome.opening.inj refused)
  | operate operation =>
    cases situation with
    | closed world nonces => cases refused
    | opened vault => cases refused

/-- When nothing goes wrong any more, an attempt to open a vault ends as it has to. -/
theorem opened_of_calm {situation : Situation} {opened : Opened Unit}
    (smooth : ∀ {exchanges ending}, AllTruthful exchanges situation.table →
      (∀ exchange ∈ exchanges, exchange.Succeeds) →
        Opening setting.calm.Unhindered exchanges ending → ending = .done opened)
    (sink : EventSink) (masterKey : Option SealingKey) :
    (take setting.calm (.reopen sink masterKey) situation).opened? = some opened := by
  rw [Report.opened?_eq_some_iff]
  obtain ⟨exchanges, yields, _, going⟩ :=
    take_going setting.calm (.reopen sink masterKey) situation
  have truthful : AllTruthful exchanges situation.table := yields.truthful
  have succeed := yields.succeed setting.unhindered_calm.harmless
  generalize take setting.calm (.reopen sink masterKey) situation = report at going ⊢
  generalize situation.standing = before, isOutcome : report.outcome = outcome,
    report.after.standing = after at going
  cases going with
  | unopened opening failing => exact absurd (smooth truthful succeed opening) (failing _)
  | opened opening => rw [smooth truthful succeed opening]

/-- However often the attempts to open it are broken off and whatever is done with it in between, a
database is initialized once. -/
theorem initialized_once (setting : Setting) (steps : List Step) (disk : Disk)
    (nonces : NonceSupply) : InitializedOnce setting steps (.start disk nonces) := by
  have uninitialized := uninitialized_start disk nonces
  have openings := openings_of_uninitialized setting uninitialized steps
  have phased : (Situation.start disk nonces).Phased := .inl uninitialized
  have taken {report : Report} (member : report ∈ reports setting steps (.start disk nonces)) :
      report.before.Phased ∧ report = take setting report.step report.before :=
    reports_induction (fun step situation phased => (sparing_take step situation phased).2) steps
      phased member
  have sparing {report : Report} (member : report ∈ reports setting steps (.start disk nonces)) :
      report.Sparing := by
    rw [(taken member).2]
    exact (sparing_take _ _ (taken member).1).1
  constructor
  case first =>
    intro opened opens
    cases openings with
    | none unopened => simp [unopened] at opens
    | some all isNew =>
      rw [all] at opens
      cases opens
      exact isNew
  case later =>
    cases openings with
    | none unopened => simp [unopened]
    | some all _ old => rwa [all]
  case metadata => exact fun report member => (sparing member).metadata
  case unwritten => exact fun report member => (sparing member).unwritten
  case refused =>
    intro report member error refused
    rw [(taken member).2] at refused
    exact refused_take _ _ refused
  case finished =>
    cases openings with
    | none unopened final =>
      rw [unopened]
      exact opened_of_calm (fun truthful succeed opening =>
        opening.of_blank setting.unhindered_calm final.blank truthful succeed)
    | some all _ _ final =>
      obtain ⟨next, ready⟩ := final.ready
      rw [all]
      exact opened_of_calm (fun truthful succeed opening =>
        (opening.of_ready setting.unhindered_calm ready truthful succeed).1)

end Lifetime

end ObjectVault
