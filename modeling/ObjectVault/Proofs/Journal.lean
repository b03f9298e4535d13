import ObjectVault.Proofs.Action

/-!
# Journals of actions

What the outside hears of an action, apart from the log: how the journal grows by the events that
are sent and the calls of the engine, and which actions are silent.
-/

namespace ObjectVault

/-- Whether a journal has grown by some events and some calls of the engine, and by any lines. -/
structure Journal.Grows (events : List Event) (calls : List EngineCall) (before after : Journal) :
    Prop where
  events : after.events = before.events ++ events
  calls : after.calls = before.calls ++ calls

namespace Journal.Grows

variable {before middle after : Journal} {events more : List Event}
  {calls others : List EngineCall}

/-- A journal that does not grow grows by nothing. -/
theorem refl (journal : Journal) : Grows [] [] journal journal := ⟨by simp, by simp⟩

/-- What is heard first and what is heard then is what is heard. -/
theorem trans (early : Grows events calls before middle) (late : Grows more others middle after) :
    Grows (events ++ more) (calls ++ others) before after where
  events := by rw [late.events, early.events, List.append_assoc]
  calls := by rw [late.calls, early.calls, List.append_assoc]

/-- Nothing but lines is added after the events and the calls. -/
theorem trans_lines (early : Grows events calls before middle) (late : Grows [] [] middle after) :
    Grows events calls before after := by
  simpa using early.trans late

/-- Nothing but lines is added before the events and the calls. -/
theorem lines_trans (early : Grows [] [] before middle) (late : Grows events calls middle after) :
    Grows events calls before after := early.trans late

end Journal.Grows

namespace Action

variable {σ α β : Type}

/-- Whether an action neither sends events nor calls the engine. -/
def Silent (action : Action σ α) : Prop :=
  ∀ machine : Machine σ, machine.journal.Grows [] [] (action.run machine).2.journal

/-- An action that does nothing is silent. -/
theorem silent_pure (value : α) : (pure value : Action σ α).Silent := fun _ => .refl _

/-- An action that fails is silent. -/
theorem silent_fail (error : VaultError) : (fail error : Action σ α).Silent := fun _ => .refl _

/-- A step on the state is silent. -/
theorem silent_step (advance : σ → α × σ) : (step advance).Silent := fun _ => .refl _

/-- Lines of the log are neither events nor calls of the engine. -/
theorem silent_logLines (lines : List LogLine) : (logLines lines : Action σ Unit).Silent :=
  fun _ => ⟨by simp [logLines], by simp [logLines]⟩

/-- A line of the log is neither. -/
theorem silent_log (level : LogLevel) (message : String) :
    (log level message : Action σ Unit).Silent := silent_logLines _

/-- A call of a database is none of the engine. -/
theorem silent_call (request : σ → Reply α × σ) : (call request).Silent := by
  intro machine
  rw [run_call]
  rcases request machine.state with ⟨_ | _ | _, _⟩ <;> exact .refl _

/-- An action is silent if every part of it is. -/
theorem Silent.bind {first : Action σ α} {next : α → Action σ β} (early : first.Silent)
    (late : ∀ value, (next value).Silent) : (first >>= next).Silent := by
  intro machine
  rw [run_bind]
  have heard := early machine
  generalize first.run machine = outcome at heard ⊢
  obtain ⟨value | error | _, later⟩ := outcome
  · exact heard.trans (late value later)
  · exact heard
  · exact heard

/-- An attempt is silent if what is attempted is. -/
theorem Silent.attempt {action : Action σ α} (silent : action.Silent) :
    (attempt action).Silent := by
  intro machine
  rw [run_attempt]
  have heard := silent machine
  generalize action.run machine = outcome at heard ⊢
  obtain ⟨value | error | _, later⟩ := outcome <;> exact heard

/-- To change the state after a failure is silent. -/
theorem Silent.orElseChange {action : Action σ α} (silent : action.Silent) (update : σ → σ) :
    (action.orElseChange update).Silent := by
  intro machine
  rw [run_orElseChange]
  have heard := silent machine
  generalize action.run machine = outcome at heard ⊢
  obtain ⟨value | error | _, later⟩ := outcome <;> exact heard

end Action

end ObjectVault
