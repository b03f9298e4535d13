import ObjectVault.Proofs.Action

/-!
# Actions that run alike

Two actions run alike if from related states they end alike and in related states, and the outside
hears the same of both (`Action.Alike`). Two runs that are alike may handle different data, as long
as their errors, their journals and the branches they take do not depend on it. There is a rule for
everything of which actions are made.
-/

namespace ObjectVault

/-- Whether two endings are the same but for their values, which are related. -/
inductive Ending.Alike {α : Type} (values : α → α → Prop) : Ending α → Ending α → Prop where
  | done {first second} (related : values first second) : Alike values (.done first) (.done second)
  | failed (error) : Alike values (.failed error) (.failed error)
  | panicked : Alike values .panicked .panicked

/-- Whether two replies are the same but for their values, which are related. -/
inductive Reply.Alike {α : Type} (values : α → α → Prop) : Reply α → Reply α → Prop where
  | done {first second} (related : values first second) : Alike values (.done first) (.done second)
  | failed (error) : Alike values (.failed error) (.failed error)
  | panicked : Alike values .panicked .panicked

/-- Whether two results are the same but for their values, which are related. -/
inductive AlikeResults {ε α : Type} (values : α → α → Prop) :
    Except ε α → Except ε α → Prop where
  | ok {first second} (related : values first second) :
      AlikeResults values (.ok first) (.ok second)
  | error (error) : AlikeResults values (.error error) (.error error)

theorem Ending.Alike.map {α β : Type} {values : α → α → Prop} {results : β → β → Prop}
    {first second : Ending α} {convert : α → β} (alike : Alike values first second)
    (converts : ∀ one other, values one other → results (convert one) (convert other)) :
    Alike results (first.map convert) (second.map convert) := by
  cases alike with
  | done related => exact .done (converts _ _ related)
  | failed error => exact .failed error
  | panicked => exact .panicked

/-- Endings that are the same but for equal values are the same. -/
theorem Ending.Alike.eq {α : Type} {first second : Ending α} (alike : Alike Eq first second) :
    first = second := by
  cases alike with
  | done related => rw [related]
  | failed => rfl
  | panicked => rfl

variable {σ τ α β : Type}

/-- Whether two runs have ended alike and in related states, and the outside has heard the same. -/
inductive AlikeRuns (states : σ → σ → Prop) (values : α → α → Prop) :
    Ending α × Machine σ → Ending α × Machine σ → Prop where
  | intro {first second one other} (journal) (endings : Ending.Alike values first second)
      (related : states one other) :
      AlikeRuns states values (first, ⟨one, journal⟩) (second, ⟨other, journal⟩)

/-- Less may be said about the states and the values. -/
theorem AlikeRuns.mono {states looser : σ → σ → Prop} {values weaker : α → α → Prop}
    {first second : Ending α × Machine σ} (runs : AlikeRuns states values first second)
    (loosens : ∀ one other, states one other → looser one other)
    (weakens : ∀ one other, values one other → weaker one other) :
    AlikeRuns looser weaker first second := by
  cases runs with
  | intro heard endings related =>
    cases endings with
    | done values => exact .intro heard (.done (weakens _ _ values)) (loosens _ _ related)
    | failed error => exact .intro heard (.failed error) (loosens _ _ related)
    | panicked => exact .intro heard .panicked (loosens _ _ related)

namespace Action

/-- Whether two actions run alike from all related states. -/
def Alike (states : σ → σ → Prop) (values : α → α → Prop) (first second : Action σ α) : Prop :=
  ∀ journal one other, states one other →
    AlikeRuns states values (first.run ⟨one, journal⟩) (second.run ⟨other, journal⟩)

variable {states : σ → σ → Prop} {values : α → α → Prop} {results : β → β → Prop}

theorem alike_pure {first second : α} (related : values first second) :
    Alike states values (pure first) (pure second) :=
  fun journal _ _ alike => .intro journal (.done related) alike

theorem alike_fail (error : VaultError) : Alike states values (fail error) (fail error) :=
  fun journal _ _ alike => .intro journal (.failed error) alike

theorem alike_panicking : Alike states values panicking panicking :=
  fun journal _ _ alike => .intro journal .panicked alike

theorem alike_ofExcept {first second : Except VaultError α}
    (related : AlikeResults values first second) :
    Alike states values (ofExcept first) (ofExcept second) := by
  cases related with
  | ok related => exact alike_pure related
  | error error => exact alike_fail error

theorem alike_state : Alike states states state state :=
  fun journal _ _ alike => .intro journal (.done alike) alike

theorem alike_change {first second : σ → σ}
    (keeps : ∀ one other, states one other → states (first one) (second other)) :
    Alike states Eq (change first) (change second) :=
  fun journal one other alike => .intro journal (.done rfl) (keeps one other alike)

theorem alike_step {first second : σ → α × σ}
    (moves : ∀ one other, states one other →
      values (first one).1 (second other).1 ∧ states (first one).2 (second other).2) :
    Alike states values (step first) (step second) := by
  intro journal one other alike
  obtain ⟨related, kept⟩ := moves one other alike
  exact .intro journal (.done related) kept

theorem alike_record (update : Journal → Journal) :
    Alike states Eq (record update) (record update) :=
  fun _ _ _ alike => .intro _ (.done rfl) alike

theorem alike_logLines (lines : List LogLine) :
    Alike states Eq (logLines lines) (logLines lines) := alike_record _

theorem alike_log (level : LogLevel) (message : String) :
    Alike states Eq (log level message) (log level message) := alike_logLines _

theorem alike_send (sink : EventSink) (event : Event) :
    Alike states Eq (send sink event) (send sink event) := alike_record _

theorem alike_noteCall (call : EngineCall) :
    Alike states Eq (noteCall call) (noteCall call) := alike_record _

/-- Calls are alike if their replies are alike, and the states that they leave. -/
theorem alike_call {first second : σ → Reply α × σ}
    (replies : ∀ one other, states one other →
      Reply.Alike values (first one).1 (second other).1 ∧
        states (first one).2 (second other).2) :
    Alike states (AlikeResults values) (call first) (call second) := by
  intro journal one other alike
  obtain ⟨related, kept⟩ := replies one other alike
  simp only [run_call]
  generalize first one = answer, second other = another at related kept ⊢
  obtain ⟨answer, later⟩ := answer
  obtain ⟨another, last⟩ := another
  cases related with
  | done related => exact .intro journal (.done (.ok related)) kept
  | failed error => exact .intro journal (.done (.error error)) kept
  | panicked => exact .intro journal .panicked kept

theorem alike_ite {condition : Prop} [Decidable condition] {first second other another : Action σ α}
    (holds : condition → Alike states values first second)
    (fails : ¬ condition → Alike states values other another) :
    Alike states values (if condition then first else other)
      (if condition then second else another) := by
  split
  · next isTrue => exact holds isTrue
  · next isFalse => exact fails isFalse

namespace Alike

variable {first second : Action σ α}

/-- Actions are alike if they are alike step by step. -/
theorem bind {next after : α → Action σ β} (early : Alike states values first second)
    (late : ∀ one other, values one other → Alike states results (next one) (after other)) :
    Alike states results (first >>= next) (second >>= after) := by
  intro journal one other alike
  have runs := early journal one other alike
  simp only [run_bind]
  generalize first.run _ = run, second.run _ = another at runs ⊢
  cases runs with
  | intro heard endings related =>
    cases endings with
    | done values => exact late _ _ values heard _ _ related
    | failed error => exact .intro heard (.failed error) related
    | panicked => exact .intro heard .panicked related

/-- What follows an action that answers the same in both runs need only be alike for one answer. -/
theorem bind_eq {next after : α → Action σ β} (early : Alike states Eq first second)
    (late : ∀ value, Alike states results (next value) (after value)) :
    Alike states results (first >>= next) (second >>= after) :=
  early.bind fun one _ same => same ▸ late one

theorem map {convert : α → β} (alike : Alike states values first second)
    (converts : ∀ one other, values one other → results (convert one) (convert other)) :
    Alike states results (first >>= fun value => pure (convert value))
      (second >>= fun value => pure (convert value)) :=
  alike.bind fun one other related => alike_pure (converts one other related)

/-- Less may be said about the values. -/
theorem mono {weaker : α → α → Prop} (alike : Alike states values first second)
    (weakens : ∀ one other, values one other → weaker one other) :
    Alike states weaker first second :=
  fun journal one other related =>
    (alike journal one other related).mono (fun _ _ kept => kept) weakens

/-- An attempt turns the same errors into values. -/
theorem attempt (alike : Alike states values first second) :
    Alike states (AlikeResults values) first.attempt second.attempt := by
  intro journal one other related
  have runs := alike journal one other related
  simp only [run_attempt]
  generalize first.run _ = run, second.run _ = another at runs ⊢
  cases runs with
  | intro heard endings kept =>
    cases endings with
    | done values => exact .intro heard (.done (.ok values)) kept
    | failed error => exact .intro heard (.done (.error error)) kept
    | panicked => exact .intro heard .panicked kept

theorem loggingError (alike : Alike states values first second) (report : VaultError → String) :
    Alike states values (first.loggingError report) (second.loggingError report) := by
  refine alike.attempt.bind fun one other related => ?_
  cases related with
  | ok related => exact alike_pure related
  | error error => exact (alike_log _ _).bind_eq fun _ => alike_fail error

theorem orElseChange {update another : σ → σ} (alike : Alike states values first second)
    (keeps : ∀ one other, states one other → states (update one) (another other)) :
    Alike states values (first.orElseChange update) (second.orElseChange another) := by
  intro journal one other related
  have runs := alike journal one other related
  simp only [run_orElseChange]
  generalize first.run _ = run, second.run _ = last at runs ⊢
  cases runs with
  | intro heard endings kept =>
    cases endings with
    | done values => exact .intro heard (.done values) kept
    | failed error => exact .intro heard (.failed error) (keeps _ _ kept)
    | panicked => exact .intro heard .panicked (keeps _ _ kept)

theorem onPanic {update another : σ → σ} (alike : Alike states values first second)
    (keeps : ∀ one other, states one other → states (update one) (another other)) :
    Alike states values (first.onPanic update) (second.onPanic another) := by
  intro journal one other related
  have runs := alike journal one other related
  simp only [run_onPanic]
  generalize first.run _ = run, second.run _ = last at runs ⊢
  cases runs with
  | intro heard endings kept =>
    cases endings with
    | done values => exact .intro heard (.done values) kept
    | failed error => exact .intro heard (.failed error) kept
    | panicked => exact .intro heard .panicked (keeps _ _ kept)

/-- Actions on parts of two states are alike if the parts are related and are put back so. -/
theorem within {wholes : τ → τ → Prop} {view : τ → σ} {store : σ → τ → τ}
    (alike : Alike states values first second)
    (views : ∀ one other, wholes one other → states (view one) (view other))
    (stores : ∀ one other part another, wholes one other → states part another →
      wholes (store part one) (store another other)) :
    Alike wholes values (first.within view store) (second.within view store) := by
  intro journal one other related
  have runs := alike journal _ _ (views one other related)
  simp only [run_within]
  generalize first.run _ = run, second.run _ = last at runs ⊢
  cases runs with
  | intro heard endings kept => exact .intro heard endings (stores _ _ _ _ related kept)

end Alike

end Action

end ObjectVault
