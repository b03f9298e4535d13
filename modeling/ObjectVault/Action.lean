import ObjectVault.Backend
import ObjectVault.Event
import ObjectVault.Location

/-!
# Actions

What the vault does is an action: it works on a state, keeps a journal of what the outside hears
of it, and ends in a value, an error or a panic. An error can be caught, a panic only noted.
-/

namespace ObjectVault

/-- A call of the engine that opens and repairs databases. -/
inductive EngineCall where
  | openAt (location : Location) (options : OpenOptions)
  | repair (location : Location)
  deriving DecidableEq, Repr

/-- The call in one line. -/
def EngineCall.message : EngineCall → String
  | .openAt location options =>
    "open " ++ location.message ++ " create=" ++ Inspect.truth options.createIfMissing ++
      " strict=" ++ Inspect.truth options.strict
  | .repair location => "repair " ++ location.message

/-- What the outside hears of an action, each part in the order in which it happens. -/
structure Journal where
  lines : List LogLine := []
  events : List Event := []
  calls : List EngineCall := []
  deriving DecidableEq, Repr

/-- How an action ends. -/
inductive Ending (α : Type) where
  | done (value : α)
  | failed (error : VaultError)
  | panicked
  deriving DecidableEq, Repr

/-- The state of an action and its journal so far. -/
structure Machine (σ : Type) where
  state : σ
  journal : Journal := {}
  deriving DecidableEq, Repr

/-- An action on states of a type. -/
structure Action (σ α : Type) where
  run : Machine σ → Ending α × Machine σ

namespace Action

variable {σ τ α β : Type}

/-- Does nothing and ends with a value. -/
protected def pure (value : α) : Action σ α where
  run machine := (.done value, machine)

/-- Goes on with `next` if the first action ends with a value. -/
protected def bind (first : Action σ α) (next : α → Action σ β) : Action σ β where
  run machine :=
    match first.run machine with
    | (.done value, later) => (next value).run later
    | (.failed error, later) => (.failed error, later)
    | (.panicked, later) => (.panicked, later)

instance : Monad (Action σ) where
  pure := Action.pure
  bind := Action.bind

/-- Ends with an error. -/
def fail (error : VaultError) : Action σ α where
  run machine := (.failed error, machine)

/-- Ends with a panic. -/
def panicking : Action σ α where
  run machine := (.panicked, machine)

/-- Ends as a result says. -/
def ofExcept : Except VaultError α → Action σ α
  | .ok value => Action.pure value
  | .error error => fail error

/-- The state. -/
def state : Action σ σ where
  run machine := (.done machine.state, machine)

/-- Changes the state. -/
def change (update : σ → σ) : Action σ Unit where
  run machine := (.done (), { machine with state := update machine.state })

/-- Takes a step that changes the state and answers a value. -/
def step (advance : σ → α × σ) : Action σ α where
  run machine :=
    match advance machine.state with
    | (value, state) => (.done value, { machine with state })

/-- Adds to the journal. -/
def record (update : Journal → Journal) : Action σ Unit where
  run machine := (.done (), { machine with journal := update machine.journal })

/-- Writes lines of the log. -/
def logLines (lines : List LogLine) : Action σ Unit :=
  record fun journal => { journal with lines := journal.lines ++ lines }

/-- Writes one line of the log. -/
def log (level : LogLevel) (message : String) : Action σ Unit := logLines [⟨level, message⟩]

/-- Sends an event to a sink. What the sink answers is not looked at. -/
def send (sink : EventSink) (event : Event) : Action σ Unit :=
  record fun journal =>
    { journal with
      events := journal.events ++ [event]
      lines := journal.lines ++ sink.lines event }

/-- Notes a call of the engine. -/
def noteCall (call : EngineCall) : Action σ Unit :=
  record fun journal => { journal with calls := journal.calls ++ [call] }

/-- Runs an action and turns its error, if it ends with one, into a value. -/
def attempt (action : Action σ α) : Action σ (Except VaultError α) where
  run machine :=
    match action.run machine with
    | (.done value, later) => (.done (.ok value), later)
    | (.failed error, later) => (.done (.error error), later)
    | (.panicked, later) => (.panicked, later)

/-- Runs an action and writes a line about its error, if it ends with one. -/
def loggingError (report : VaultError → String) (action : Action σ α) : Action σ α := do
  match ← attempt action with
  | .ok value => return value
  | .error error =>
    log .error (report error)
    fail error

/-- Runs an action and changes the state if it does not end with a value. -/
def orElseChange (action : Action σ α) (update : σ → σ) : Action σ α where
  run machine :=
    match action.run machine with
    | (.done value, later) => (.done value, later)
    | (ending, later) => (ending, { later with state := update later.state })

/-- Runs an action and changes the state if it ends with a panic. -/
def onPanic (action : Action σ α) (update : σ → σ) : Action σ α where
  run machine :=
    match action.run machine with
    | (.panicked, later) => (.panicked, { later with state := update later.state })
    | (ending, later) => (ending, later)

/-- Runs an action on a part of the state. -/
def within (view : τ → σ) (store : σ → τ → τ) (action : Action σ α) : Action τ α where
  run machine :=
    match action.run ⟨view machine.state, machine.journal⟩ with
    | (ending, later) => (ending, ⟨store later.state machine.state, later.journal⟩)

/-- Makes a call of a database. A panic of the call is one of the action. -/
def call (request : σ → Reply α × σ) : Action σ (Except BackendError α) where
  run machine :=
    match request machine.state with
    | (.done value, state) => (.done (.ok value), { machine with state })
    | (.failed error, state) => (.done (.error error), { machine with state })
    | (.panicked, state) => (.panicked, { machine with state })

@[simp] theorem run_pure (value : α) (machine : Machine σ) :
    (pure value : Action σ α).run machine = (.done value, machine) := rfl

theorem run_bind (first : Action σ α) (next : α → Action σ β) (machine : Machine σ) :
    (first >>= next).run machine =
      match first.run machine with
      | (.done value, later) => (next value).run later
      | (.failed error, later) => (.failed error, later)
      | (.panicked, later) => (.panicked, later) := rfl

/-- Two actions that run alike are the same. -/
theorem ext_run {first second : Action σ α}
    (alike : ∀ machine, first.run machine = second.run machine) : first = second := by
  cases first
  cases second
  exact congrArg mk (funext alike)

instance : LawfulMonad (Action σ) :=
  LawfulMonad.mk' _
    (fun action => ext_run fun machine => by
      show (action >>= pure).run machine = action.run machine
      rw [run_bind]
      rcases action.run machine with ⟨_ | _ | _, _⟩ <;> rfl)
    (fun _ _ => rfl)
    (fun first second third => ext_run fun machine => by
      simp only [run_bind]
      rcases first.run machine with ⟨_ | _ | _, _⟩ <;> rfl)

end Action

end ObjectVault
