import ObjectVault.Action

/-!
# Runs of actions

What the parts of which actions are made do when they run.
-/

namespace ObjectVault

/-- What an ending becomes when its value is converted. -/
def Ending.map {α β : Type} (convert : α → β) : Ending α → Ending β
  | .done value => .done (convert value)
  | .failed error => .failed error
  | .panicked => .panicked

@[simp] theorem Ending.map_eq_done {α β : Type} {convert : α → β} {ending : Ending α} {value : β} :
    ending.map convert = .done value ↔ ∃ original, ending = .done original ∧
      convert original = value := by
  cases ending <;> simp [map]

@[simp] theorem Ending.map_eq_failed {α β : Type} {convert : α → β} {ending : Ending α}
    {error : VaultError} : ending.map convert = .failed error ↔ ending = .failed error := by
  cases ending <;> simp [map]

/-- Endings are the same if their values are converted to the same, and the conversion loses
nothing. -/
theorem Ending.map_inj {α β : Type} {convert : α → β}
    (injective : ∀ {first second}, convert first = convert second → first = second)
    {first second : Ending α} : first.map convert = second.map convert ↔ first = second := by
  refine ⟨fun same => ?_, fun same => by rw [same]⟩
  cases first with
  | done value =>
    cases second with
    | done other => rw [injective (Ending.done.inj same)]
    | _ => cases same
  | failed error =>
    cases second with
    | failed other => rw [Ending.failed.inj same]
    | _ => cases same
  | panicked =>
    cases second with
    | panicked => rfl
    | _ => cases same

namespace Action

variable {σ τ α β : Type}

@[simp] theorem run_fail (error : VaultError) (machine : Machine σ) :
    (fail error : Action σ α).run machine = (.failed error, machine) := rfl

@[simp] theorem run_panicking (machine : Machine σ) :
    (panicking : Action σ α).run machine = (.panicked, machine) := rfl

@[simp] theorem run_state (machine : Machine σ) :
    (state : Action σ σ).run machine = (.done machine.state, machine) := rfl

@[simp] theorem run_change (update : σ → σ) (machine : Machine σ) :
    (change update).run machine = (.done (), { machine with state := update machine.state }) := rfl

@[simp] theorem run_step (advance : σ → α × σ) (machine : Machine σ) :
    (step advance).run machine =
      (.done (advance machine.state).1,
        { machine with state := (advance machine.state).2 }) := rfl

@[simp] theorem run_record (update : Journal → Journal) (machine : Machine σ) :
    (record update).run machine =
      (.done (), { machine with journal := update machine.journal }) := rfl

@[simp] theorem run_log (level : LogLevel) (message : String) (machine : Machine σ) :
    (log level message).run machine =
      (.done (), { machine with
        journal := { machine.journal with
          lines := machine.journal.lines ++ [⟨level, message⟩] } }) := rfl

theorem run_call (request : σ → Reply α × σ) (machine : Machine σ) :
    (call request).run machine =
      match request machine.state with
      | (.done value, state) => (.done (.ok value), { machine with state })
      | (.failed error, state) => (.done (.error error), { machine with state })
      | (.panicked, state) => (.panicked, { machine with state }) := rfl

theorem run_attempt (action : Action σ α) (machine : Machine σ) :
    (attempt action).run machine =
      match action.run machine with
      | (.done value, later) => (.done (.ok value), later)
      | (.failed error, later) => (.done (.error error), later)
      | (.panicked, later) => (.panicked, later) := rfl

theorem run_orElseChange (action : Action σ α) (update : σ → σ) (machine : Machine σ) :
    (action.orElseChange update).run machine =
      match action.run machine with
      | (.done value, later) => (.done value, later)
      | (ending, later) => (ending, { later with state := update later.state }) := rfl

theorem run_onPanic (action : Action σ α) (update : σ → σ) (machine : Machine σ) :
    (action.onPanic update).run machine =
      match action.run machine with
      | (.panicked, later) => (.panicked, { later with state := update later.state })
      | (ending, later) => (ending, later) := rfl

theorem run_within (view : τ → σ) (store : σ → τ → τ) (action : Action σ α)
    (machine : Machine τ) :
    (action.within view store).run machine =
      ((action.run ⟨view machine.state, machine.journal⟩).1,
        ⟨store (action.run ⟨view machine.state, machine.journal⟩).2.state machine.state,
          (action.run ⟨view machine.state, machine.journal⟩).2.journal⟩) := rfl

/-- An action whose value is only converted ends as the action does. -/
theorem run_bind_pure (first : Action σ α) (convert : α → β) (machine : Machine σ) :
    (first >>= fun value => pure (convert value)).run machine =
      ((first.run machine).1.map convert, (first.run machine).2) := by
  rw [run_bind]
  rcases first.run machine with ⟨_ | _ | _, _⟩ <;> rfl

/-- To write a line about an error changes nothing but the journal. -/
theorem run_loggingError (report : VaultError → String) (action : Action σ α)
    (machine : Machine σ) :
    ∃ journal, (action.loggingError report).run machine =
      ((action.run machine).1, ⟨(action.run machine).2.state, journal⟩) := by
  simp only [loggingError, run_bind, run_attempt]
  rcases action.run machine with ⟨_ | _ | _, later⟩ <;> exact ⟨_, rfl⟩

/-- Whether an action never panics and leaves the part of the state alone that `view` shows. -/
def Spares {ν : Type} (view : σ → ν) (action : Action σ α) : Prop :=
  ∀ machine, (action.run machine).1 ≠ .panicked ∧
    view (action.run machine).2.state = view machine.state

section Spares

variable {ν : Type} {view : σ → ν}

theorem spares_pure (value : α) : (pure value : Action σ α).Spares view :=
  fun _ => ⟨by simp, rfl⟩

theorem spares_fail (error : VaultError) : (fail error : Action σ α).Spares view :=
  fun _ => ⟨by simp, rfl⟩

theorem spares_record (update : Journal → Journal) : (record update).Spares view :=
  fun _ => ⟨by simp, rfl⟩

theorem spares_logLines (lines : List LogLine) : (logLines lines).Spares view := spares_record _

theorem spares_log (level : LogLevel) (message : String) :
    (log level message : Action σ Unit).Spares view := spares_logLines _

theorem spares_send (sink : EventSink) (event : Event) : (send sink event).Spares view :=
  spares_record _

theorem spares_noteCall (call : EngineCall) : (noteCall call).Spares view := spares_record _

theorem spares_step {advance : σ → α × σ} (spares : ∀ state, view (advance state).2 = view state) :
    (step advance).Spares view :=
  fun machine => ⟨by simp, spares machine.state⟩

/-- An action spares a part of the state if every part of the action does. -/
theorem Spares.bind {first : Action σ α} {next : α → Action σ β} (early : first.Spares view)
    (late : ∀ value, (next value).Spares view) : (first >>= next).Spares view := by
  intro machine
  rw [run_bind]
  have spared := early machine
  generalize first.run machine = outcome at spared ⊢
  obtain ⟨value | error | _, later⟩ := outcome
  · have kept := late value later
    exact ⟨kept.1, kept.2.trans spared.2⟩
  · exact ⟨by simp, spared.2⟩
  · exact absurd rfl spared.1

end Spares

end Action

end ObjectVault
