import ObjectVault.Vault
import ObjectVault.Proofs.Conduct.Session

/-!
# The conduct of a vault

`Performing` is how a call of a vault goes whose lock is whole: as the call of the session goes,
with the lock broken by a panic (`perform_conduct`). Behind a broken lock nothing happens
(`perform_refused`).
-/

namespace ObjectVault

/-- Whether an ending is a panic. -/
def Ending.panics {α : Type} : Ending α → Bool
  | .panicked => true
  | _ => false

@[simp] theorem Ending.panics_map {α β : Type} (convert : α → β) (ending : Ending α) :
    (ending.map convert).panics = ending.panics := by
  cases ending <;> rfl

namespace Vault

/-- How a call goes. -/
inductive Performing (suite : Suite) (before : Memory) :
    Operation → List Exchange → Ending Answer → Memory → Prop where
  | insert {blob exchanges ending after}
      (inserting : Session.Inserting suite blob before exchanges ending after) :
      Performing suite before (.insert blob) exchanges (ending.map .handle) after
  | update {handle blob exchanges ending after}
      (updating : Session.Updating suite handle blob before exchanges ending after) :
      Performing suite before (.update handle blob) exchanges (ending.map fun _ => .nothing) after
  | delete {handle exchanges ending after}
      (deleting : Session.Deleting handle before exchanges ending after) :
      Performing suite before (.delete handle) exchanges (ending.map fun _ => .nothing) after
  | deleteAll {exchanges ending after}
      (deleting : Session.DeletingAll before exchanges ending after) :
      Performing suite before .deleteAll exchanges (ending.map fun _ => .nothing) after
  | loadPublic {exchanges ending after}
      (loading : Session.Loading suite .publicObject before exchanges ending after) :
      Performing suite before .loadPublic exchanges (ending.map .objects) after
  | loadPrivate {exchanges ending after}
      (loading : Session.LoadingPrivate suite before exchanges ending after) :
      Performing suite before .loadPrivate exchanges (ending.map .objects) after
  | getInternal {number exchanges ending after}
      (recalling : Session.Recalling number before exchanges ending after) :
      Performing suite before (.getInternal number) exchanges (ending.map .internal) after
  | setInternal {number value exchanges ending after}
      (noting : Session.Noting number value before exchanges ending after) :
      Performing suite before (.setInternal number value) exchanges
        (ending.map fun _ => .nothing) after
  | setMasterKey {bytes key} (fits : SealingKey.ofBytes bytes = .ok key) :
      Performing suite before (.setMasterKey bytes) [] (.done .nothing)
        { before with masterKey := some key }
  | unfitKey {bytes error} (unfit : SealingKey.ofBytes bytes = .error error) :
      Performing suite before (.setMasterKey bytes) [] (.failed error) before
  | hasMasterKey :
      Performing suite before .hasMasterKey [] (.done (.truth before.masterKey.isSome)) before
  | formatVersion {reply} :
      Performing suite before .formatVersion [.get MetadataItem.formatVersion.key reply]
        ((Metadata.reading .formatVersion reply).map .number) before

/-- Whether a run of an action on a vault has exchanges with the database, an ending, and a memory
before and after it that are so related, and breaks the lock if it panics. -/
def Conducts {ω α : Type} (backend : Backend ω) (action : Action (Vault ω) α)
    (conduct : Memory → List Exchange → Ending α → Memory → Prop) : Prop :=
  ∀ machine, machine.state.poisoned = false → ∃ exchanges,
    backend.Makes machine.state.session.world exchanges
        (action.run machine).2.state.session.world ∧
      conduct machine.state.session.memory exchanges (action.run machine).1
        (action.run machine).2.state.session.memory ∧
      (action.run machine).2.state.poisoned = (action.run machine).1.panics

variable {ω α β : Type} {backend : Backend ω}

/-- While the lock is whole, an action is done on the session behind it. -/
theorem locked_run (action : Action (Session ω) α) (machine : Machine (Vault ω))
    (whole : machine.state.poisoned = false) :
    (locked action).run machine =
      ((action.run ⟨machine.state.session, machine.journal⟩).1,
        ⟨{ session := (action.run ⟨machine.state.session, machine.journal⟩).2.state
           poisoned := (action.run ⟨machine.state.session, machine.journal⟩).1.panics },
          (action.run ⟨machine.state.session, machine.journal⟩).2.journal⟩) := by
  obtain ⟨⟨session, poisoned⟩, journal⟩ := machine
  cases whole
  simp only [locked, Action.run_bind, Action.run_state, Bool.false_eq_true, if_false,
    Action.run_onPanic, Action.run_within]
  rcases action.run ⟨session, journal⟩ with ⟨_ | _ | _, later⟩ <;> rfl

/-- With the lock held, an action goes as on the session alone. -/
theorem locked_conduct {action : Action (Session ω) α}
    {conduct : Memory → List Exchange → Ending α → Memory → Prop}
    (conducts : Session.Conducts backend action conduct) :
    Conducts backend (locked action) conduct := by
  intro machine whole
  obtain ⟨exchanges, makes, related⟩ := conducts ⟨machine.state.session, machine.journal⟩
  rw [locked_run action machine whole]
  exact ⟨exchanges, makes, related, rfl⟩

/-- The conduct of an action whose value is converted. -/
theorem Conducts.map {action : Action (Vault ω) α} (convert : α → β)
    {conduct : Memory → List Exchange → Ending α → Memory → Prop}
    {converted : Memory → List Exchange → Ending β → Memory → Prop}
    (conducts : Conducts backend action conduct)
    (converts : ∀ {before exchanges ending after}, conduct before exchanges ending after →
      converted before exchanges (ending.map convert) after) :
    Conducts backend (action >>= fun value => pure (convert value)) converted := by
  intro machine whole
  obtain ⟨exchanges, makes, related, breaks⟩ := conducts machine whole
  rw [Action.run_bind_pure]
  refine ⟨exchanges, makes, converts related, ?_⟩
  rw [Ending.panics_map]
  exact breaks

/-- Behind a broken lock an action does nothing. -/
theorem locked_refused (action : Action (Session ω) α) (machine : Machine (Vault ω))
    (broken : machine.state.poisoned = true) :
    (locked action).run machine = (.failed (.lock "store mutex poisoned"), machine) := by
  simp [locked, Action.run_bind, broken]

/-- No call is needed to set a master key. -/
theorem setMasterKey_conduct (bytes : Bytes) (suite : Suite) :
    Conducts backend (setMasterKey bytes >>= fun _ => pure Answer.nothing)
      (fun before => Performing suite before (.setMasterKey bytes)) := by
  intro machine whole
  simp only [setMasterKey, Action.run_bind]
  obtain ⟨journal, run⟩ := Action.run_loggingError VaultError.message
    (Action.ofExcept (SealingKey.ofBytes bytes)) machine
  rw [run]
  cases fits : SealingKey.ofBytes bytes with
  | error error => exact ⟨[], .nothing, .unfitKey fits, whole⟩
  | ok key =>
    simp only [Action.ofExcept, Action.pure]
    rw [locked_run _ ⟨machine.state, journal⟩ whole]
    exact ⟨[], .nothing, .setMasterKey fits, rfl⟩

/-- No call is needed to tell whether there is a master key. -/
theorem hasMasterKey_conduct (suite : Suite) :
    Conducts backend (hasMasterKey >>= fun value => pure (Answer.truth value))
      (fun before => Performing suite before .hasMasterKey) := by
  intro machine whole
  rw [hasMasterKey, Action.run_bind_pure, locked_run _ _ whole]
  exact ⟨[], .nothing, .hasMasterKey, rfl⟩

/-- The version of the format is read in one call. -/
theorem formatVersion_conduct (services : Services ω) :
    Session.Conducts services.backend
      (Session.onWorld (Metadata.require services.backend .formatVersion))
      (fun before exchanges ending after => after = before ∧ ∃ reply,
        exchanges = [.get MetadataItem.formatVersion.key reply] ∧
          ending = Metadata.reading .formatVersion reply) := by
  intro machine
  rw [Session.onWorld_run, Metadata.require_run]
  exact ⟨_, .get _ .nothing, rfl, _, rfl, rfl⟩

/-- Every call of a vault whose lock is whole goes in one of the ways of `Performing`. -/
theorem perform_conduct (services : Services ω) (operation : Operation) :
    Conducts services.backend (perform services operation)
      (fun before => Performing services.suite before operation) := by
  cases operation with
  | insert blob =>
    exact (locked_conduct (Session.insert_conduct services blob)).map _ .insert
  | update handle blob =>
    exact (locked_conduct (Session.update_conduct services handle blob)).map _ .update
  | delete handle =>
    exact (locked_conduct (Session.delete_conduct services handle)).map _ .delete
  | deleteAll => exact (locked_conduct (Session.deleteAll_conduct services)).map _ .deleteAll
  | loadPublic => exact (locked_conduct (Session.loadPublic_conduct services)).map _ .loadPublic
  | loadPrivate =>
    exact (locked_conduct (Session.loadPrivate_conduct services)).map _ .loadPrivate
  | getInternal number =>
    exact (locked_conduct (Session.getInternal_conduct services number)).map _ .getInternal
  | setInternal number value =>
    exact (locked_conduct (Session.setInternal_conduct services number value)).map _ .setInternal
  | setMasterKey bytes => exact setMasterKey_conduct bytes services.suite
  | hasMasterKey => exact hasMasterKey_conduct services.suite
  | formatVersion =>
    refine (locked_conduct (formatVersion_conduct services)).map Answer.number ?_
    rintro before exchanges ending after ⟨rfl, reply, rfl, rfl⟩
    exact .formatVersion

/-- The error with which a vault whose lock is broken refuses a call. Only the size of a master key
is checked before the lock is taken. -/
def Operation.refusal : Operation → VaultError
  | .setMasterKey bytes =>
    match SealingKey.ofBytes bytes with
    | .ok _ => .lock "store mutex poisoned"
    | .error error => error
  | _ => .lock "store mutex poisoned"

/-- A vault whose lock is broken refuses every call and does nothing. -/
theorem perform_refused (services : Services ω) (operation : Operation)
    (machine : Machine (Vault ω)) (broken : machine.state.poisoned = true) :
    ((perform services operation).run machine).2.state = machine.state ∧
      ((perform services operation).run machine).1 = .failed operation.refusal := by
  cases operation with
  | setMasterKey bytes =>
    simp only [perform, setMasterKey, Action.run_bind, Operation.refusal]
    obtain ⟨journal, run⟩ := Action.run_loggingError VaultError.message
      (Action.ofExcept (SealingKey.ofBytes bytes)) machine
    rw [run]
    cases SealingKey.ofBytes bytes with
    | error error => exact ⟨rfl, rfl⟩
    | ok key =>
      simp only [Action.ofExcept, Action.pure]
      rw [locked_refused _ ⟨machine.state, journal⟩ broken]
      exact ⟨rfl, rfl⟩
  | _ =>
    simp only [perform, insert, update, delete, deleteAll, loadPublic, loadPrivate, getInternal,
      setInternal, hasMasterKey, formatVersion, Action.run_bind]
    rw [locked_refused _ _ broken]
    exact ⟨rfl, rfl⟩

end Vault

end ObjectVault
