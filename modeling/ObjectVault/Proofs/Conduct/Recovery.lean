import ObjectVault.Proofs.Conduct.Metadata

/-!
# The conduct of recovery

How a database is brought up, whichever engine there is: which stages fail and with which errors,
how this ends, and what becomes of the world. `openInStages_conduct` and `bringUp_conduct` say that
every run goes in one of the ways of `Staging` and `BringingUp`.
-/

namespace ObjectVault

variable {σ η : Type}

namespace Engine

variable (engine : Engine σ η) (location : Location)

/-- The second stage: repairs a database and opens it. -/
def mend (world : World σ) : Except BackendError η × World σ :=
  match engine.repair location world with
  | (⟨.ok (), _⟩, repaired) => engine.openAt location {} repaired
  | (⟨.error error, _⟩, repaired) => (.error error, repaired)

/-- The world once the first two stages have failed. -/
def tried (world : World σ) : World σ :=
  (engine.mend location (engine.openAt location {} world).2).2

/-- To try to open is to open, which is noted as a call. -/
theorem tryOpen_run (options : OpenOptions) (machine : Machine (World σ)) :
    (engine.tryOpen location options).run machine =
      (.done (engine.openAt location options machine.state).1,
        ⟨(engine.openAt location options machine.state).2,
          { machine.journal with
            calls := machine.journal.calls ++ [.openAt location options] }⟩) := rfl

/-- To try to repair is to repair, whatever is noted of it. -/
theorem tryRepair_run (machine : Machine (World σ)) :
    ∃ journal, (engine.tryRepair location).run machine =
      (.done (engine.repair location machine.state).1.result,
        ⟨(engine.repair location machine.state).2, journal⟩) := ⟨_, rfl⟩

end Engine

namespace Location

/-- The paths below a root directory. -/
def layout? (root : Location) : Option Layout := root.path?.map Layout.mk

/-- Where the database of a vault is. -/
def database (root : Location) : Location := (root.layout?.map Layout.location).getD .memory

end Location

namespace Recovery

/-- The disk once the database has been moved aside, or once that has been tried. -/
def cleared (layout : Option Layout) (disk : Disk) : Disk :=
  match layout with
  | some layout => (layout.moveAside disk).2
  | none => disk

/-- The world once the database has been moved aside, or once that has been tried. -/
def setAside (layout : Option Layout) (world : World σ) : World σ :=
  { world with disk := cleared layout world.disk }

/-- How a database is opened stage by stage, with the error of every stage that fails. -/
inductive Staging (engine : Engine σ η) (layout : Option Layout) (location : Location)
    (world : World σ) : List BackendError → Ending (η × Recovery) → World σ → Prop where
  | opened {handle later} (opens : engine.openAt location {} world = (.ok handle, later)) :
      Staging engine layout location world [] (.done (handle, .opened)) later
  | repaired {openError tried handle later}
      (fails : engine.openAt location {} world = (.error openError, tried))
      (mends : engine.mend location tried = (.ok handle, later)) :
      Staging engine layout location world [openError] (.done (handle, .repaired)) later
  | recreated {openError tried mendError left handle later}
      (fails : engine.openAt location {} world = (.error openError, tried))
      (unmended : engine.mend location tried = (.error mendError, left))
      (opens : engine.openAt location {} (setAside layout left) = (.ok handle, later)) :
      Staging engine layout location world [openError, mendError] (.done (handle, .recreated))
        later
  | lost {openError tried mendError left lastError later}
      (fails : engine.openAt location {} world = (.error openError, tried))
      (unmended : engine.mend location tried = (.error mendError, left))
      (lost : engine.openAt location {} (setAside layout left) = (.error lastError, later)) :
      Staging engine layout location world [openError, mendError, lastError]
        (.failed (.initializationFailed lastError.message)) later

/-- How a database is brought up, with the error of every stage that fails. -/
inductive BringingUp (engine : Engine σ η) (root : Location) (world : World σ) :
    List BackendError → Ending (Opened η) → World σ → Prop where
  | unsupported {error} (inMemory : root.isMemory = true)
      (lacking : engine.supportsMemory = false) :
      BringingUp engine root world [] (.failed error) world
  | unopened {errors error later}
      (staging : Staging engine root.layout? root.database world errors (.failed error) later) :
      BringingUp engine root world errors (.failed error) later
  | opened {errors handle recovery middle exchanges isNew later}
      (staging : Staging engine root.layout? root.database world errors (.done (handle, recovery))
        middle)
      (makes : (engine.backend handle).Makes middle exchanges later)
      (initializing : Metadata.Initializing exchanges (.done isNew)) :
      BringingUp engine root world errors (.done ⟨handle, recovery, isNew⟩) later
  | closed {errors handle recovery middle exchanges ending later}
      (staging : Staging engine root.layout? root.database world errors (.done (handle, recovery))
        middle)
      (makes : (engine.backend handle).Makes middle exchanges later)
      (initializing : Metadata.Initializing exchanges ending)
      (failing : ∀ isNew, ending ≠ .done isNew) :
      BringingUp engine root world errors (ending.map fun isNew => ⟨handle, recovery, isNew⟩)
        (engine.close handle later)

/-- The errors of the stages that fail. -/
def failures (engine : Engine σ η) (layout : Option Layout) (location : Location)
    (world : World σ) : List BackendError :=
  match engine.openAt location {} world with
  | (.ok _, _) => []
  | (.error openError, tried) =>
    match engine.mend location tried with
    | (.ok _, _) => [openError]
    | (.error mendError, left) =>
      match engine.openAt location {} (setAside layout left) with
      | (.ok _, _) => [openError, mendError]
      | (.error lastError, _) => [openError, mendError, lastError]

/-- The errors of the failed stages are the engine's own. -/
theorem Staging.errors_eq {engine : Engine σ η} {layout : Option Layout} {location : Location}
    {world later : World σ} {errors : List BackendError} {ending : Ending (η × Recovery)}
    (staging : Staging engine layout location world errors ending later) :
    errors = failures engine layout location world := by
  cases staging with
  | opened opens => simp [failures, opens]
  | repaired fails mends => simp [failures, fails, mends]
  | recreated fails unmended opens => simp [failures, fails, unmended, opens]
  | lost fails unmended lost => simp [failures, fails, unmended, lost]

/-- The errors of a whole attempt are those of its stages. -/
theorem BringingUp.errors_eq {engine : Engine σ η} {root : String} {world later : World σ}
    {errors : List BackendError} {ending : Ending (Opened η)}
    (bringing : BringingUp engine (.directory root) world errors ending later) :
    errors = failures engine (some ⟨root⟩) (Layout.mk root).location world := by
  cases bringing with
  | unsupported inMemory => cases inMemory
  | unopened staging => exact staging.errors_eq
  | opened staging => exact staging.errors_eq
  | closed staging => exact staging.errors_eq

/-- To move the database aside does nothing else than that to the world. -/
theorem quarantine_run (layout : Layout) (machine : Machine (World σ)) :
    ∃ journal, (quarantine layout).run machine =
      (.done (), ⟨setAside (some layout) machine.state, journal⟩) := by
  simp only [quarantine, Action.run_bind, Action.run_step]
  cases (layout.moveAside machine.state.disk).1 <;> exact ⟨_, rfl⟩

/-- The second stage is what `mend` does. -/
theorem repairAndOpen_run (engine : Engine σ η) (location : Location)
    (machine : Machine (World σ)) :
    ∃ journal, (repairAndOpen engine location).run machine =
      (.done (engine.mend location machine.state).1,
        ⟨(engine.mend location machine.state).2, journal⟩) := by
  obtain ⟨journal, repairs⟩ := engine.tryRepair_run location machine
  simp only [repairAndOpen, Action.run_bind, repairs, Engine.mend]
  rcases engine.repair location machine.state with ⟨⟨error | _, lines⟩, repaired⟩ <;>
    exact ⟨_, rfl⟩

/-- The last stage opens what is there once the database has been set aside. -/
theorem recreate_run (engine : Engine σ η) (sink : EventSink) (layout : Option Layout)
    (location : Location) (machine : Machine (World σ)) :
    ∃ journal, (recreate engine sink layout location).run machine =
      (match (engine.openAt location {} (setAside layout machine.state)).1 with
        | .ok handle => .done (handle, .recreated)
        | .error error => .failed (.initializationFailed error.message),
        ⟨(engine.openAt location {} (setAside layout machine.state)).2, journal⟩) := by
  simp only [recreate, Action.run_bind, Action.run_log]
  cases layout with
  | none =>
    simp only [Action.run_bind, Engine.tryOpen_run, setAside, cleared]
    rcases engine.openAt location {} machine.state with ⟨_ | _, later⟩ <;> exact ⟨_, rfl⟩
  | some layout =>
    obtain ⟨journal, moved⟩ := quarantine_run layout
      ⟨machine.state, { machine.journal with
        lines := machine.journal.lines ++ [⟨.warn, "Recreating database from scratch"⟩] }⟩
    simp only [Action.run_bind, moved, Engine.tryOpen_run]
    rcases engine.openAt location {} (setAside (some layout) machine.state) with
      ⟨_ | _, later⟩ <;> exact ⟨_, rfl⟩

/-- However the stages go, they go as `Staging` says. -/
theorem openInStages_conduct (engine : Engine σ η) (sink : EventSink) (layout : Option Layout)
    (location : Location) (machine : Machine (World σ)) :
    ∃ errors, Staging engine layout location machine.state errors
      ((openInStages engine sink layout location).run machine).1
      ((openInStages engine sink layout location).run machine).2.state := by
  simp only [openInStages, Action.run_bind, Engine.tryOpen_run]
  rcases first : engine.openAt location {} machine.state with ⟨openError | handle, tried⟩
  · simp only [Action.run_bind, Action.run_log, Action.send, Action.run_record]
    generalize Journal.mk _ _ _ = heard
    obtain ⟨journal, mending⟩ := repairAndOpen_run engine location ⟨tried, heard⟩
    simp only [mending]
    rcases second : engine.mend location tried with ⟨mendError | handle, left⟩
    · simp only [Action.run_bind, Action.run_log, Action.run_record]
      generalize Journal.mk _ _ _ = heard
      obtain ⟨journal, last⟩ := recreate_run engine sink layout location ⟨left, heard⟩
      simp only [last]
      rcases third : engine.openAt location {} (setAside layout left) with
        ⟨lastError | handle, later⟩
      · exact ⟨_, .lost first second third⟩
      · exact ⟨_, .recreated first second third⟩
    · exact ⟨_, .repaired first second⟩
  · exact ⟨_, .opened first⟩

/-- Every run that brings up a database goes in one of the ways of `BringingUp`. -/
theorem bringUp_conduct (engine : Engine σ η) (sink : EventSink) (root : Location)
    (machine : Machine (World σ)) :
    ∃ errors, BringingUp engine root machine.state errors
      ((bringUp engine sink root).run machine).1
      ((bringUp engine sink root).run machine).2.state := by
  simp only [bringUp]
  split
  · next unsupported =>
    rw [Bool.and_eq_true, Bool.not_eq_true'] at unsupported
    exact ⟨_, .unsupported unsupported.1 unsupported.2⟩
  · simp only [Action.run_bind, Action.run_log]
    generalize Journal.mk _ _ _ = heard
    obtain ⟨errors, staging⟩ := openInStages_conduct engine sink (root.path?.map Layout.mk)
      (((root.path?.map Layout.mk).map Layout.location).getD .memory) ⟨machine.state, heard⟩
    generalize (openInStages engine sink _ _).run _ = outcome at staging ⊢
    obtain ⟨⟨handle, recovery⟩ | error | _, middle⟩ := outcome
    · obtain ⟨exchanges, makes, initializing⟩ :=
        initializeOnce_conduct (engine.backend handle) middle
      simp only [Action.run_orElseChange]
      generalize (initializeOnce (engine.backend handle)).run middle = initialization
        at makes initializing ⊢
      obtain ⟨isNew | error | _, later⟩ := initialization
      · exact ⟨errors, .opened staging makes initializing⟩
      · exact ⟨errors, .closed staging makes initializing (by simp)⟩
      · exact ⟨errors, .closed staging makes initializing (by simp)⟩
    · exact ⟨errors, .unopened staging⟩
    · cases staging

end Recovery

end ObjectVault
