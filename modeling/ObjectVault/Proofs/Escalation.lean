import ObjectVault.Proofs.Journal
import ObjectVault.Proofs.Recovery

/-!
# The escalation of recovery

What is tried while a database is brought up, and what is heard of it. A stage comes only after the
one before it has failed, and every failed stage is one event, whatever the sink makes of it. All
that happens to the disk is done by the engine, in the calls that the journal names, but for one
thing: between the second stage and the third the database is set aside (`Recovery.Passage`).
`Vault.escalation` puts this together with what becomes of the tree that was in the place of the
database.

The disks are those of `ObjectVault.Disk`. The operating system may refuse to remove the quarantine,
or to move the database after that. Symbolic links are left out, so a tree in the place of the
database stands there itself. Were there a link in its place that leads into the quarantine, the
tree would be lost with the quarantine.
-/

namespace ObjectVault

open Disk
open scoped List

variable {σ η β : Type} {engine : Engine σ η} {view : FileContent → β}

/-- Whether an engine alone leads from one world to another: it opens and repairs the database at a
location, as some calls say, has the metadata of databases read and written, and closes them. -/
inductive Engine.Leads (engine : Engine σ η) (location : Location) :
    World σ → List EngineCall → World σ → Prop where
  | rest {world} : Leads engine location world [] world
  | openAt {world calls later}
      (leads : Leads engine location (engine.openAt location {} world).2 calls later) :
      Leads engine location world (.openAt location {} :: calls) later
  | repair {world calls later}
      (leads : Leads engine location (engine.repair location world).2 calls later) :
      Leads engine location world (.repair location :: calls) later
  | metadata {handle world exchanges middle calls later}
      (makes : (engine.backend handle).Makes world exchanges middle)
      (harmless : ∀ exchange ∈ exchanges, exchange.IsMetadata)
      (leads : Leads engine location middle calls later) : Leads engine location world calls later
  | close {handle world calls later}
      (leads : Leads engine location (engine.close handle world) calls later) :
      Leads engine location world calls later

/-- What the engine does after what it has done is its own doing as well. -/
theorem Engine.Leads.trans {location : Location} {world middle later : World σ}
    {first second : List EngineCall} (early : engine.Leads location world first middle)
    (late : engine.Leads location middle second later) :
    engine.Leads location world (first ++ second) later := by
  induction early with
  | rest => exact late
  | openAt _ ih => exact .openAt (ih late)
  | repair _ ih => exact .repair (ih late)
  | metadata makes harmless _ ih => exact .metadata makes harmless (ih late)
  | close _ ih => exact .close (ih late)

namespace Recovery

/-- The events of the stages, in the order of the stages. -/
def stageEvents : List Event :=
  [.databaseCorrupted, .databaseRepairFailure, .databaseCreateFailure]

/-- The calls of the stages when every one of them fails as late as it can. -/
def stageCalls (location : Location) : List EngineCall :=
  [.openAt location {}, .repair location, .openAt location {}, .openAt location {}]

/-- How a world becomes another one while a database is brought up, by the number of stages that
fail. -/
inductive Passage (engine : Engine σ η) (layout : Option Layout) (location : Location)
    (failed : Nat) (world : World σ) : List EngineCall → World σ → Prop where
  | plain {calls later} (few : failed < 2) (leads : engine.Leads location world calls later) :
      Passage engine layout location failed world calls later
  | aside {early late later} (many : 2 ≤ failed)
      (tries : engine.Leads location world early (engine.tried location world))
      (leads : engine.Leads location (setAside layout (engine.tried location world)) late later) :
      Passage engine layout location failed world (early ++ late) later

variable {layout : Option Layout} {location : Location} {world middle later : World σ}
  {failed : Nat} {calls others : List EngineCall}

/-- The engine may go on after a passage. -/
theorem Passage.trans (passage : Passage engine layout location failed world calls middle)
    (leads : engine.Leads location middle others later) :
    Passage engine layout location failed world (calls ++ others) later := by
  cases passage with
  | plain few early => exact .plain few (early.trans leads)
  | aside many tries early =>
    rw [List.append_assoc]
    exact .aside many tries (early.trans leads)

/-- The engine may close what is open and have its metadata read and written. -/
theorem Passage.trans_silent
    (passage : Passage engine layout location failed world calls middle)
    (leads : engine.Leads location middle [] later) :
    Passage engine layout location failed world calls later := by
  simpa using passage.trans leads

/-- The second stage repairs the database, and opens it if that works. -/
theorem repairAndOpen_leads (engine : Engine σ η) (location : Location)
    (machine : Machine (World σ)) :
    ∃ calls journal, calls <+ [.repair location, .openAt location {}] ∧
      machine.journal.Grows [] calls journal ∧
      engine.Leads location machine.state calls (engine.mend location machine.state).2 ∧
      (repairAndOpen engine location).run machine =
        (.done (engine.mend location machine.state).1,
          ⟨(engine.mend location machine.state).2, journal⟩) := by
  simp only [repairAndOpen, Engine.tryRepair, Action.run_bind, Action.noteCall, Action.run_record,
    Action.run_step, Action.logLines, Action.run_pure, Engine.mend]
  rcases repairs : engine.repair location machine.state with ⟨⟨error | _, lines⟩, repaired⟩
  · refine ⟨[.repair location], _, by simp, ⟨?_, ?_⟩, .repair ?_, rfl⟩
    · simp
    · simp
    · rw [repairs]
      exact .rest
  · refine ⟨[.repair location, .openAt location {}], _, .refl _, ⟨?_, ?_⟩, .repair ?_, rfl⟩
    · simp
    · simp
    · rw [repairs]
      exact .openAt .rest

/-- To move the database aside is no event and no call. -/
theorem silent_quarantine (layout : Layout) : (quarantine layout : Action (World σ) Unit).Silent :=
  (Action.silent_step _).bind fun result => by
    cases result with
    | ok => exact Action.silent_log _ _
    | error => exact Action.silent_log _ _

/-- The last stage opens the database once, and a failure of it is an event. -/
theorem recreate_heard (engine : Engine σ η) (sink : EventSink) (layout : Option Layout)
    (location : Location) (machine : Machine (World σ)) :
    machine.journal.Grows
      (match (engine.openAt location {} (setAside layout machine.state)).1 with
        | .ok _ => []
        | .error _ => [.databaseCreateFailure])
      [.openAt location {}] ((recreate engine sink layout location).run machine).2.journal := by
  simp only [recreate, Action.run_bind, Action.run_log]
  cases layout with
  | none =>
    simp only [Action.run_bind, Engine.tryOpen_run, setAside, cleared]
    rcases engine.openAt location {} machine.state with ⟨_ | _, later⟩ <;>
      constructor <;> simp [Action.run_bind, Action.send]
  | some layout =>
    generalize prior : Journal.mk _ _ _ = noted
    have noting : machine.journal.Grows [] [] noted := by
      subst prior
      constructor <;> simp
    have moving := silent_quarantine layout ⟨machine.state, noted⟩
    obtain ⟨journal, moved⟩ := quarantine_run layout ⟨machine.state, noted⟩
    rw [moved] at moving
    have heard : machine.journal.Grows [] [] journal := noting.trans moving
    simp only [Action.run_bind, moved, Engine.tryOpen_run]
    rcases engine.openAt location {} (setAside (some layout) machine.state) with
      ⟨_ | _, later⟩ <;>
      constructor <;> simp [Action.run_bind, Action.send, heard.events, heard.calls]

/-- Opening a database stage by stage is heard as the failed stages are, and the engine does
everything but the move aside. -/
theorem openInStages_passage (engine : Engine σ η) (sink : EventSink) (layout : Option Layout)
    (location : Location) (machine : Machine (World σ)) :
    ∃ calls, calls <+ stageCalls location ∧
      machine.journal.Grows
        (stageEvents.take (failures engine layout location machine.state).length) calls
        ((openInStages engine sink layout location).run machine).2.journal ∧
      Passage engine layout location
        (failures engine layout location machine.state).length machine.state calls
        ((openInStages engine sink layout location).run machine).2.state := by
  simp only [openInStages, Action.run_bind, Engine.tryOpen_run]
  rcases first : engine.openAt location {} machine.state with ⟨openError | handle, tried⟩
  · simp only [Action.run_bind, Action.run_log, Action.send, Action.run_record]
    generalize prior : Journal.mk _ _ _ = noted
    have opening : machine.journal.Grows [.databaseCorrupted] [.openAt location {}] noted := by
      subst prior
      constructor <;> simp
    obtain ⟨mending, journal, few, repairing, leads, runs⟩ :=
      repairAndOpen_leads engine location ⟨tried, noted⟩
    have heard := opening.trans repairing
    have early : engine.Leads location machine.state (.openAt location {} :: mending)
        (engine.mend location tried).2 := .openAt (by rwa [first])
    have tried_eq : engine.tried location machine.state = (engine.mend location tried).2 := by
      rw [Engine.tried, first]
    simp only [runs]
    rcases second : engine.mend location tried with ⟨mendError | handle, left⟩
    · rw [second] at early tried_eq
      simp only [Action.run_bind, Action.run_log, Action.run_record]
      generalize after : Journal.mk _ _ _ = noted
      have mended : journal.Grows [.databaseRepairFailure] [] noted := by
        subst after
        constructor <;> simp
      have last := recreate_heard engine sink layout location ⟨left, noted⟩
      obtain ⟨_, recreates⟩ := recreate_run engine sink layout location ⟨left, noted⟩
      have whole := (heard.trans mended).trans last
      rw [recreates] at whole ⊢
      refine ⟨_, (few.cons_cons _).append (.refl [EngineCall.openAt location {}]), ?_, ?_⟩
      · simp only [failures, first, second]
        rcases third : engine.openAt location {} (setAside layout left) with ⟨_ | _, _⟩ <;>
          rw [third] at whole <;> simpa [stageEvents] using whole
      · refine .aside ?_ (by rwa [tried_eq]) (.openAt ?_)
        · simp only [failures, first, second]
          split <;> simp
        · rw [tried_eq]
          exact .rest
    · rw [second] at early
      have few_failures : (failures engine layout location machine.state).length = 1 := by
        simp [failures, first, second]
      simp only [Action.run_bind, Action.run_log, Action.run_pure, few_failures]
      refine ⟨_, (few.cons_cons _).trans (by simp [stageCalls]), ?_, .plain (by simp) early⟩
      constructor <;> simp [heard.events, heard.calls, stageEvents]
  · have opens : engine.Leads location machine.state [.openAt location {}]
        (engine.openAt location {} machine.state).2 := .openAt .rest
    rw [first] at opens
    refine ⟨_, by simp [stageCalls], ?_, .plain (by simp [failures, first]) opens⟩
    constructor <;> simp [failures, first]

/-- To initialize a database is no event and no call of the engine. -/
theorem silent_initializeOnce {ω : Type} (backend : Backend ω) :
    (initializeOnce backend).Silent := by
  have written (item : MetadataItem) (number : UInt32) :
      (Metadata.write backend item number).Silent :=
    (Action.silent_call _).bind fun result => by
      cases result with
      | ok => exact Action.silent_pure _
      | error => exact Action.silent_fail _
  have read : (Metadata.isInitialized backend).Silent :=
    (Action.silent_call _).bind fun result => by
      cases result with
      | ok => exact Action.silent_pure _
      | error => exact Action.silent_fail _
  have set : (Metadata.setUp backend).Silent := (written _ _).bind fun _ => written _ _
  refine read.attempt.bind fun result => ?_
  rcases result with error | _ | _
  · exact Action.silent_fail _
  · refine (Action.silent_log _ _).bind fun _ => set.attempt.bind fun result => ?_
    rcases result with error | _
    · exact (Action.silent_log _ _).bind fun _ => Action.silent_fail _
    · exact Action.silent_pure _
  · exact Action.silent_pure _

/-- The number of stages that fail while a database below a root or in memory is brought up. -/
def failedStages (engine : Engine σ η) (root : Location) (world : World σ) : Nat :=
  if root.isMemory && !engine.supportsMemory then 0
  else (failures engine root.layout? root.database world).length

/-- Bringing up a database is heard as the failed stages are, and the engine does everything but
the move aside. -/
theorem bringUp_passage (engine : Engine σ η) (sink : EventSink) (root : Location)
    (machine : Machine (World σ)) :
    ∃ calls, calls <+ stageCalls root.database ∧
      machine.journal.Grows (stageEvents.take (failedStages engine root machine.state)) calls
        ((bringUp engine sink root).run machine).2.journal ∧
      Passage engine root.layout? root.database (failedStages engine root machine.state)
        machine.state calls ((bringUp engine sink root).run machine).2.state := by
  simp only [bringUp, failedStages]
  split
  · refine ⟨[], by simp, ?_, .plain (by simp) .rest⟩
    constructor <;> simp [Action.run_bind]
  · simp only [Action.run_bind, Action.run_log]
    generalize prior : Journal.mk _ _ _ = noted
    have noting : machine.journal.Grows [] [] noted := by
      subst prior
      constructor <;> simp
    obtain ⟨calls, few, heard, passage⟩ := openInStages_passage engine sink
      (root.path?.map Layout.mk) (((root.path?.map Layout.mk).map Layout.location).getD .memory)
      ⟨machine.state, noted⟩
    refine ⟨calls, few, ?_⟩
    generalize (openInStages engine sink _ _).run _ = outcome at heard passage ⊢
    have opening := noting.lines_trans heard
    obtain ⟨⟨handle, recovery⟩ | error | _, middle⟩ := outcome
    · obtain ⟨exchanges, makes, initializing⟩ :=
        initializeOnce_conduct (engine.backend handle) middle
      have initialized := opening.trans_lines (silent_initializeOnce (engine.backend handle) middle)
      have harmless := initializing.isMetadata
      simp only [Action.run_orElseChange]
      generalize (initializeOnce (engine.backend handle)).run middle = initialization
        at makes initialized ⊢
      obtain ⟨isNew | error | _, later⟩ := initialization
      · exact ⟨⟨initialized.events, initialized.calls⟩,
          passage.trans_silent (.metadata makes harmless .rest)⟩
      · exact ⟨initialized, passage.trans_silent (.metadata makes harmless (.close .rest))⟩
      · exact ⟨initialized, passage.trans_silent (.metadata makes harmless (.close .rest))⟩
    · exact ⟨opening, passage⟩
    · exact ⟨opening, passage⟩

/-- What is in the place of the database stays there or becomes the quarantine. -/
theorem Course.database {layout : Layout} {failed : Nat} {before left after : Disk}
    (course : Course view (some layout) failed before left after) :
    Carries view layout.databasePath layout.databasePath before after ∨
      Carries view layout.databasePath layout.quarantinePath before after := by
  cases course with
  | kept few later => exact .inl (later.carries _)
  | aside many early late =>
    change Later view (layout.moveAside left).2 after at late
    have tried := early.carries layout.databasePath
    cases moves : (layout.moveAside left).1 with
    | error error =>
      exact .inl ((tried.trans (layout.carries_moveAside_of_error early.proper moves)).trans
        (late.carries _))
    | ok =>
      exact .inr ((tried.trans (layout.carries_moveAside_of_ok early.proper moves)).trans
        (late.carries _))

/-- What an attempt to bring up a database below a root or in memory does, and what is heard of
it. -/
structure Escalation (engine : Engine σ η) (view : FileContent → β) (root : Location)
    (before after : Machine (World σ)) : Prop where
  /-- The tree that was in the place of the database is there or in quarantine. -/
  intact : ∀ layout, root.layout? = some layout →
    Carries view layout.databasePath layout.databasePath before.state.disk after.state.disk ∨
      Carries view layout.databasePath layout.quarantinePath before.state.disk after.state.disk
  /-- Every failed stage is an event, there is one repair at most and three databases are opened at
  most, all in one place, and the engine alone changes anything until two stages have failed. -/
  staged : ∃ calls, calls <+ stageCalls root.database ∧
    before.journal.Grows (stageEvents.take (failedStages engine root before.state)) calls
      after.journal ∧
    Passage engine root.layout? root.database (failedStages engine root before.state)
      before.state calls after.state
  /-- Nothing happens if the database would be in memory and the engine has no such databases. -/
  unsupported : root.isMemory = true → engine.supportsMemory = false →
    after.state = before.state ∧ before.journal.Grows [] [] after.journal

end Recovery

namespace Vault

end Vault

end ObjectVault
