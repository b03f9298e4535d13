import ObjectVault.Proofs.Adversity
import ObjectVault.Proofs.Conduct.Vault

/-!
# The lifetime of a vault

A program opens a vault on one database, makes calls of it, and closes and opens it again, as often
and in whatever order it likes. `Lifetime.reports` tells what comes of every step, for a database
in any adversity. `Going` is how a step goes, apart from the database itself, and `take_going`
says that every step goes so and leaves the database as its exchanges do.
-/

namespace ObjectVault

/-- How a vault is opened, if nothing hinders it or if something may. -/
inductive Opening (unhindered : Prop) : List Exchange → Ending (Opened Unit) → Prop where
  | refused {error} (hindered : ¬ unhindered) : Opening unhindered [] (.failed error)
  | initializing {recovery exchanges ending} (direct : unhindered → recovery = .opened)
      (initializing : Metadata.Initializing exchanges ending) :
      Opening unhindered exchanges (ending.map fun isNew => ⟨(), recovery, isNew⟩)

section Opening

variable (adversity : Adversity) (supportsMemory : Bool)

/-- Whether a database can be opened at a location and nothing goes wrong with it. -/
structure Unhindered (root : Location) : Prop where
  harmless : adversity.Harmless
  supported : root.isMemory = true → supportsMemory = true

/-- What is in the database of a world, and what happened to it. -/
abbrev World.history (world : World Storage) : History := world.engine.history

/-- An attempt to open a database makes no call of it. -/
theorem spares_tryOpen (location : Location) (options : OpenOptions) :
    ((adversity.engine supportsMemory).tryOpen location options).Spares World.history :=
  .bind (Action.spares_noteCall _) fun _ => Action.spares_step fun _ => rfl

/-- An attempt to repair it makes none. -/
theorem spares_tryRepair (location : Location) :
    ((adversity.engine supportsMemory).tryRepair location).Spares World.history := by
  refine .bind (Action.spares_noteCall _) fun _ => .bind ?_ fun repair => ?_
  · exact Action.spares_step fun _ => rfl
  · exact .bind (Action.spares_logLines _) fun _ => Action.spares_pure _

/-- To set it aside makes none. -/
theorem spares_quarantine (layout : Layout) :
    (Recovery.quarantine layout).Spares World.history := by
  refine .bind (Action.spares_step fun _ => rfl) fun result => ?_
  cases result <;> exact Action.spares_log _ _

/-- The last stage makes none. -/
theorem spares_recreate (sink : EventSink) (layout : Option Layout) (location : Location) :
    (Recovery.recreate (adversity.engine supportsMemory) sink layout location).Spares
      World.history := by
  refine .bind (Action.spares_log _ _) fun _ => ?_
  cases layout
  case' some layout => refine .bind (spares_quarantine layout) fun _ => ?_
  all_goals
    refine .bind (spares_tryOpen adversity supportsMemory location {}) fun result => ?_
    cases result with
    | ok handle => exact Action.spares_pure _
    | error error =>
      exact .bind (Action.spares_log _ _) fun _ => .bind (Action.spares_send _ _) fun _ =>
        Action.spares_fail _

/-- The second stage makes none. -/
theorem spares_repairAndOpen (location : Location) :
    (Recovery.repairAndOpen (adversity.engine supportsMemory) location).Spares World.history := by
  refine .bind (spares_tryRepair adversity supportsMemory location) fun result => ?_
  cases result with
  | ok _ => exact spares_tryOpen adversity supportsMemory location {}
  | error error => exact Action.spares_pure _

/-- The stages of recovery leave alone what is stored. -/
theorem spares_openInStages (sink : EventSink) (layout : Option Layout) (location : Location) :
    (Recovery.openInStages (adversity.engine supportsMemory) sink layout location).Spares
      World.history := by
  refine .bind (spares_tryOpen adversity supportsMemory location {}) fun result => ?_
  cases result with
  | ok handle => exact Action.spares_pure _
  | error openError =>
    refine .bind (Action.spares_log _ _) fun _ => .bind (Action.spares_send _ _) fun _ =>
      .bind (Action.spares_log _ _) fun _ => ?_
    refine .bind (spares_repairAndOpen adversity supportsMemory location) fun result => ?_
    cases result with
    | ok handle => exact .bind (Action.spares_log _ _) fun _ => Action.spares_pure _
    | error repairError =>
      exact .bind (Action.spares_log _ _) fun _ => .bind (Action.spares_send _ _) fun _ =>
        spares_recreate adversity supportsMemory sink layout location

/-- If nothing goes wrong, the first stage is the last. -/
theorem openInStages_direct {adversity : Adversity} (harmless : adversity.Harmless)
    (sink : EventSink) (layout : Option Layout) (location : Location)
    (machine : Machine (World Storage)) :
    ((Recovery.openInStages (adversity.engine supportsMemory) sink layout location).run
      machine).1 = .done ((), .opened) := by
  simp [Recovery.openInStages, Engine.tryOpen, Action.noteCall, Action.run_bind, Adversity.engine,
    Adversity.attempt, harmless.obstacle]

/-- A database that is open gets its metadata in the exchanges of `Opening`. -/
theorem initializeOnce_opening {unhindered : Prop} {recovery : Recovery}
    (direct : unhindered → recovery = .opened) (machine : Machine (World Storage)) :
    ∃ exchanges,
      adversity.Yields exchanges machine.state.history.table ∧
      ((Recovery.initializeOnce adversity.backend).run machine).2.state.history =
        machine.state.history.making exchanges ∧
      Opening unhindered exchanges
        (((Recovery.initializeOnce adversity.backend).run machine).1.map
          fun isNew => ⟨(), recovery, isNew⟩) := by
  obtain ⟨exchanges, makes, initializing⟩ :=
    Recovery.initializeOnce_conduct adversity.backend machine
  obtain ⟨yields, after⟩ := adversity.makes_backend makes
  exact ⟨exchanges, yields, by rw [after], .initializing direct initializing⟩

/-- A vault is opened in one of the ways of `Opening`. -/
theorem bringUp_opening (sink : EventSink) (root : Location) (machine : Machine (World Storage)) :
    ∃ exchanges,
      adversity.Yields exchanges machine.state.history.table ∧
      ((Recovery.bringUp (adversity.engine supportsMemory) sink root).run
        machine).2.state.history = machine.state.history.making exchanges ∧
      Opening (Unhindered adversity supportsMemory root) exchanges
        ((Recovery.bringUp (adversity.engine supportsMemory) sink root).run machine).1 := by
  simp only [Recovery.bringUp]
  split
  · next unsupported =>
    refine ⟨[], Adversity.yields_nil _, by simp [Action.run_bind], .refused fun unhindered => ?_⟩
    rw [Bool.and_eq_true] at unsupported
    have supported : (adversity.engine supportsMemory).supportsMemory = true :=
      unhindered.supported unsupported.1
    simp [supported] at unsupported
  · simp only [Action.run_bind, Action.run_log]
    have spared := spares_openInStages adversity supportsMemory sink (root.path?.map Layout.mk)
      (((root.path?.map Layout.mk).map Layout.location).getD .memory)
    have smooth (harmless : adversity.Harmless) := openInStages_direct supportsMemory harmless sink
      (root.path?.map Layout.mk) (((root.path?.map Layout.mk).map Layout.location).getD .memory)
    generalize Recovery.openInStages (adversity.engine supportsMemory) sink _ _ = opening
      at spared smooth ⊢
    let logged : Machine (World Storage) := { machine with
      journal.lines := machine.journal.lines ++ [⟨.info, "Opening database in: " ++
        (((root.path?.map Layout.mk).map Layout.location).getD .memory).message⟩] }
    have kept := spared logged
    have direct (harmless : adversity.Harmless) := smooth harmless logged
    generalize opening.run _ = outcome at kept direct ⊢
    obtain ⟨⟨handle, recovery⟩ | error | _, later⟩ := outcome
    · have opens (unhindered : Unhindered adversity supportsMemory root) :
          recovery = .opened := by
        cases direct unhindered.harmless
        rfl
      obtain ⟨exchanges, yields, after, opened⟩ := initializeOnce_opening adversity opens later
      have history : later.state.history = machine.state.history := kept.2
      rw [history] at yields after
      refine ⟨exchanges, yields, ?_⟩
      simp only [Action.run_orElseChange]
      change ((Recovery.initializeOnce ((adversity.engine supportsMemory).backend handle)).run
        later).2.state.history = _ at after
      change Opening _ exchanges (Ending.map _ ((Recovery.initializeOnce
        ((adversity.engine supportsMemory).backend handle)).run later).1) at opened
      generalize (Recovery.initializeOnce ((adversity.engine supportsMemory).backend handle)).run
        later = outcome at after opened ⊢
      obtain ⟨_ | _ | _, last⟩ := outcome
      · exact ⟨after, opened⟩
      · exact ⟨after, opened⟩
      · exact ⟨after, opened⟩
    · refine ⟨[], Adversity.yields_nil _, by simpa using kept.2, .refused fun unhindered => ?_⟩
      cases direct unhindered.harmless
    · exact absurd rfl kept.1

end Opening

/-- What is the same for the whole lifetime of a vault. -/
structure Setting where
  suite : Suite
  root : Location
  supportsMemory : Bool
  adversity : Adversity

/-- The engine of the database. -/
def Setting.engine (setting : Setting) : Engine Storage Unit :=
  setting.adversity.engine setting.supportsMemory

/-- What the vault runs on when it is open. -/
def Setting.services (setting : Setting) : Services (World Storage) :=
  Vault.services setting.engine setting.suite ()

/-- Whether a database can be opened and nothing goes wrong with it. -/
def Setting.Unhindered (setting : Setting) : Prop :=
  ObjectVault.Unhindered setting.adversity setting.supportsMemory setting.root

/-- How a vault stands, apart from its database. -/
inductive Standing where
  /-- It is closed. There are nonces for when it is open again. -/
  | closed (nonces : NonceSupply)
  | working (memory : Memory)
  /-- It is open, and its lock is broken. -/
  | broken (memory : Memory)

/-- The nonces for the envelopes to come. -/
def Standing.nonces : Standing → NonceSupply
  | .closed nonces => nonces
  | .working memory => memory.nonces
  | .broken memory => memory.nonces

namespace Lifetime

/-- A vault between two steps. -/
inductive Situation where
  /-- It is closed, or could not be opened. There are nonces for when it is open again. -/
  | closed (world : World Storage) (nonces : NonceSupply)
  | opened (vault : Vault (World Storage))

namespace Situation

/-- The world of the database. -/
def world : Situation → World Storage
  | .closed world _ => world
  | .opened vault => vault.session.world

/-- What is in the database, and what happened to it. -/
def history (situation : Situation) : History := situation.world.history

/-- How the vault stands. -/
def standing : Situation → Standing
  | .closed _ nonces => .closed nonces
  | .opened vault =>
    if vault.poisoned then .broken vault.session.memory else .working vault.session.memory

/-- The world once the vault is closed. -/
def closing (setting : Setting) : Situation → World Storage
  | .closed world _ => world
  | .opened vault => setting.engine.close () vault.session.world

/-- The situation in which nothing has been stored yet. -/
def start (disk : Disk) (nonces : NonceSupply) : Situation :=
  .closed ⟨disk, {}⟩ nonces

end Situation

/-- What a program does with a vault. -/
inductive Step where
  /-- It closes the vault if it is open, and opens it. -/
  | reopen (sink : EventSink) (masterKey : Option SealingKey)
  | operate (operation : Vault.Operation)

/-- What comes of a step. -/
inductive Outcome where
  | opening (ending : Ending (Opened Unit))
  | answer (ending : Ending Vault.Answer)
  /-- There is no open vault that could be called. -/
  | nothing

/-- A step and what came of it. -/
structure Report where
  step : Step
  before : Situation
  outcome : Outcome
  journal : Journal
  after : Situation

/-- The exchanges with the database during the step, each with the table that it met. -/
def Report.entries (report : Report) : List Entry :=
  report.after.history.record.drop report.before.history.record.length

/-- Takes a step. -/
def take (setting : Setting) (step : Step) (before : Situation) : Report :=
  match step with
  | .reopen sink masterKey =>
    let config : Config := ⟨setting.root, sink, masterKey⟩
    let outcome := (Vault.bringUp setting.engine config).run ⟨before.closing setting, {}⟩
    let after :=
      match outcome.1 with
      | .done _ => .opened (Vault.fresh config outcome.2.state before.standing.nonces)
      | _ => .closed outcome.2.state before.standing.nonces
    ⟨step, before, .opening outcome.1, outcome.2.journal, after⟩
  | .operate operation =>
    match before with
    | .closed .. => ⟨step, before, .nothing, {}, before⟩
    | .opened vault =>
      let outcome := (Vault.perform setting.services operation).run ⟨vault, {}⟩
      ⟨step, before, .answer outcome.1, outcome.2.journal, .opened outcome.2.state⟩

/-- What comes of some steps, one after the other. -/
def reports (setting : Setting) : List Step → Situation → List Report
  | [], _ => []
  | step :: rest, situation =>
    let report := take setting step situation
    report :: reports setting rest report.after

/-- The situation after some steps. -/
def final (setting : Setting) : List Step → Situation → Situation
  | [], situation => situation
  | step :: rest, situation => final setting rest (take setting step situation).after

/-- How a step goes, apart from the database. -/
inductive Going (setting : Setting) :
    Standing → Step → List Exchange → Outcome → Standing → Prop where
  | idle {nonces operation} :
      Going setting (.closed nonces) (.operate operation) [] .nothing (.closed nonces)
  | refused {memory operation error} :
      Going setting (.broken memory) (.operate operation) [] (.answer (.failed error))
        (.broken memory)
  | performed {memory operation exchanges ending after}
      (performing : Vault.Performing setting.suite memory operation exchanges ending after) :
      Going setting (.working memory) (.operate operation) exchanges (.answer ending)
        (if ending.panics then .broken after else .working after)
  | unopened {standing sink masterKey exchanges ending}
      (opening : Opening setting.Unhindered exchanges ending)
      (failing : ∀ opened, ending ≠ .done opened) :
      Going setting standing (.reopen sink masterKey) exchanges (.opening ending)
        (.closed standing.nonces)
  /-- The vault is opened and has nothing in mind but its master key. -/
  | opened {standing sink masterKey exchanges opened}
      (opening : Opening setting.Unhindered exchanges (.done opened)) :
      Going setting standing (.reopen sink masterKey) exchanges (.opening (.done opened))
        (.working ⟨standing.nonces, masterKey, ∅⟩)

@[simp] theorem take_step (setting : Setting) (step : Step) (before : Situation) :
    (take setting step before).step = step := by
  cases step with
  | reopen sink masterKey => rfl
  | operate operation => cases before <;> rfl

@[simp] theorem take_before (setting : Setting) (step : Step) (before : Situation) :
    (take setting step before).before = before := by
  cases step with
  | reopen sink masterKey => rfl
  | operate operation => cases before <;> rfl

/-- To close a vault leaves its database as it is. -/
theorem history_closing (setting : Setting) (situation : Situation) :
    (situation.closing setting).history = situation.history := by
  cases situation <;> rfl

/-- Every step goes in one of the ways of `Going`, and leaves the database as the exchanges do. -/
theorem take_going (setting : Setting) (step : Step) (before : Situation) :
    ∃ exchanges,
      setting.adversity.Yields exchanges before.history.table ∧
      (take setting step before).after.history = before.history.making exchanges ∧
      Going setting before.standing step exchanges (take setting step before).outcome
        (take setting step before).after.standing := by
  cases step with
  | reopen sink masterKey =>
    obtain ⟨exchanges, yields, after, opening⟩ := bringUp_opening setting.adversity
      setting.supportsMemory sink setting.root ⟨before.closing setting, {}⟩
    rw [history_closing] at yields after
    refine ⟨exchanges, yields, ?_⟩
    simp only [take, Vault.bringUp]
    change ((Recovery.bringUp setting.engine sink setting.root).run _).2.state.history = _ at after
    change Opening setting.Unhindered _
      ((Recovery.bringUp setting.engine sink setting.root).run _).1 at opening
    generalize (Recovery.bringUp setting.engine sink setting.root).run _ = outcome
      at after opening ⊢
    obtain ⟨opened | error | _, later⟩ := outcome
    · exact ⟨after, .opened opening⟩
    · exact ⟨after, .unopened opening (by simp)⟩
    · exact ⟨after, .unopened opening (by simp)⟩
  | operate operation =>
    cases before with
    | closed world nonces => exact ⟨[], Adversity.yields_nil _, by simp [take], .idle⟩
    | opened vault =>
      cases lock : vault.poisoned with
      | true =>
        obtain ⟨same, refused⟩ :=
          Vault.perform_refused setting.services operation ⟨vault, {}⟩ lock
        refine ⟨[], Adversity.yields_nil _, ?_⟩
        simp only [take, same, refused, Situation.standing, lock, if_true, History.making_nil]
        exact ⟨trivial, .refused⟩
      | false =>
        obtain ⟨exchanges, makes, performing, breaks⟩ :=
          Vault.perform_conduct setting.services operation ⟨vault, {}⟩ lock
        obtain ⟨yields, after⟩ := setting.adversity.makes_backend makes
        refine ⟨exchanges, yields, ?_⟩
        simp only [take]
        have going := Going.performed performing
        simp only [Situation.standing, lock, breaks]
        refine ⟨?_, going⟩
        simp only [Situation.history, Situation.world, after]

/-- What holds at first and is kept by every step holds in the end. -/
theorem final_induction {setting : Setting} {property : Situation → Prop}
    (kept : ∀ step situation, property situation → property (take setting step situation).after)
    (steps : List Step) {situation : Situation} (initially : property situation) :
    property (final setting steps situation) := by
  induction steps generalizing situation with
  | nil => exact initially
  | cons step rest ih => exact ih (kept step situation initially)

/-- What holds at first and is kept by every step holds before every step. -/
theorem reports_induction {setting : Setting} {property : Situation → Prop}
    (kept : ∀ step situation, property situation → property (take setting step situation).after)
    (steps : List Step) {situation : Situation} (initially : property situation) {report : Report}
    (member : report ∈ reports setting steps situation) :
    property report.before ∧ report = take setting report.step report.before := by
  induction steps generalizing situation with
  | nil => cases member
  | cons step rest ih =>
    rcases List.mem_cons.1 member with rfl | later
    · rw [take_step, take_before]
      exact ⟨initially, rfl⟩
    · exact ih (kept step situation initially) later

end Lifetime

end ObjectVault
