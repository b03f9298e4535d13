import ObjectVault.Recovery
import ObjectVault.Proofs.Action
import ObjectVault.Proofs.Exchange

/-!
# The conduct of metadata

How the counter of handles is read and moved, and how a database is initialized: which exchanges
there are with the database, and how they end. A relation has a constructor for each way in which
this can go, and `allocate_conduct` and `initializeOnce_conduct` say that every run is one of them,
whichever database there is.
-/

namespace ObjectVault

/-- The ending of an action that ends as a call of the database does. -/
def Reply.ending {α : Type} : Reply α → Ending α
  | .done value => .done value
  | .failed error => .failed (.backend error)
  | .panicked => .panicked

@[simp] theorem Reply.ending_eq_done {α : Type} {reply : Reply α} {value : α} :
    reply.ending = .done value ↔ reply = .done value := by
  cases reply <;> simp [ending]

variable {ω α : Type}

/-- Whether every run of an action on a world has exchanges with the database and an ending that
are so related. -/
def Action.Conducts (backend : Backend ω) (action : Action ω α)
    (conduct : List Exchange → Ending α → Prop) : Prop :=
  ∀ machine, ∃ exchanges, backend.Makes machine.state exchanges (action.run machine).2.state ∧
    conduct exchanges (action.run machine).1

namespace Metadata

/-- What comes of reading an item that has to be there, by the reply of the database. -/
def reading (item : MetadataItem) : Reply (Option Bytes) → Ending UInt32
  | .done (some raw) =>
    match Decimal.parse? raw with
    | some number => .done number
    | none => .failed (.invalidMetadata item (Utf8.lossy raw))
  | .done none => .failed (.missingMetadata item)
  | .failed error => .failed (.backend error)
  | .panicked => .panicked

/-- How a handle is given out. -/
inductive Allocating : List Exchange → Ending Handle → Prop where
  | unread {reply error} (read : reading .nextHandle reply = .failed error) :
      Allocating [.get MetadataItem.nextHandle.key reply] (.failed error)
  | stopped : Allocating [.get MetadataItem.nextHandle.key .panicked] .panicked
  | exhausted {reply} (read : reading .nextHandle reply = .done lastNumber) :
      Allocating [.get MetadataItem.nextHandle.key reply] (.failed .idSpaceExhausted)
  | counted {reply number written} (read : reading .nextHandle reply = .done number)
      (left : number ≠ lastNumber) :
      Allocating
        [.get MetadataItem.nextHandle.key reply,
          .put MetadataItem.nextHandle.key (Decimal.render (number + 1).toNat) .synced written]
        (written.ending.map fun _ => ⟨number⟩)

/-- How the metadata of a new database is written. -/
inductive SettingUp : List Exchange → Ending Unit → Prop where
  | uncounted {written} (unwritten : written ≠ .done ()) :
      SettingUp
        [.put MetadataItem.nextHandle.key (Decimal.render firstHandle.toNat) .synced written]
        written.ending
  | counted {written} :
      SettingUp
        [.put MetadataItem.nextHandle.key (Decimal.render firstHandle.toNat) .synced (.done ()),
          .put MetadataItem.formatVersion.key (Decimal.render formatVersion.toNat) .synced written]
        written.ending

/-- What comes of initializing a database whose metadata is written in some way. -/
def initialization : Ending Unit → Ending Bool
  | .done () => .done true
  | .failed error => .failed (.initializationFailed ("failed to write metadata: " ++ error.message))
  | .panicked => .panicked

/-- How a database is initialized, unless it is already. The answer is whether it was not. -/
inductive Initializing : List Exchange → Ending Bool → Prop where
  | unknown {error} :
      Initializing [.get MetadataItem.formatVersion.key (.failed error)]
        (.failed (.initializationFailed
          ("failed to read metadata: " ++ (VaultError.backend error).message)))
  | stopped : Initializing [.get MetadataItem.formatVersion.key .panicked] .panicked
  | already {version} :
      Initializing [.get MetadataItem.formatVersion.key (.done (some version))] (.done false)
  | settingUp {exchanges ending} (setting : SettingUp exchanges ending) :
      Initializing (.get MetadataItem.formatVersion.key (.done none) :: exchanges)
        (initialization ending)

/-- To require an item is to read its key and to make a number of what is there. -/
theorem require_run (backend : Backend ω) (item : MetadataItem) (machine : Machine ω) :
    (require backend item).run machine =
      (reading item (backend.get item.key machine.state).1,
        { machine with state := (backend.get item.key machine.state).2 }) := by
  simp only [require, read, Action.run_bind, Action.run_call]
  rcases backend.get item.key machine.state with ⟨(_ | raw) | error | _, world⟩
  · rfl
  · cases parsed : Decimal.parse? raw <;> simp [reading, parsed]
  · rfl
  · rfl

/-- To write an item is to store the digits of its number. -/
theorem write_run (backend : Backend ω) (item : MetadataItem) (number : UInt32)
    (machine : Machine ω) :
    (write backend item number).run machine =
      ((backend.put item.key (Decimal.render number.toNat) .synced machine.state).1.ending,
        { machine with
          state :=
            (backend.put item.key (Decimal.render number.toNat) .synced machine.state).2 }) := by
  simp only [write, Action.run_bind, Action.run_call]
  rcases backend.put item.key (Decimal.render number.toNat) .synced machine.state with
    ⟨_ | _ | _, world⟩ <;> rfl

/-- Reading an item panics only if the database does. -/
theorem eq_panicked_of_reading {item : MetadataItem} {reply : Reply (Option Bytes)}
    (read : reading item reply = .panicked) : reply = .panicked := by
  rcases reply with (_ | raw) | _ | _
  · cases read
  · simp only [reading] at read
    split at read <;> cases read
  · cases read
  · rfl

/-- An item is read as a number only if it is one. -/
theorem eq_done_of_reading {item : MetadataItem} {reply : Reply (Option Bytes)} {number : UInt32}
    (read : reading item reply = .done number) :
    ∃ raw, reply = .done (some raw) ∧ Decimal.parse? raw = some number := by
  rcases reply with (_ | raw) | _ | _
  · cases read
  · simp only [reading] at read
    split at read
    · next parsed =>
      cases read
      exact ⟨raw, rfl, parsed⟩
    · cases read
  · cases read
  · cases read

/-- A handle is given out in one of these ways. -/
theorem allocate_conduct (backend : Backend ω) :
    (allocate backend).Conducts backend Allocating := by
  intro machine
  simp only [allocate, Action.run_bind (require backend .nextHandle), require_run]
  cases read : reading .nextHandle (backend.get MetadataItem.nextHandle.key machine.state).1 with
  | failed error => exact ⟨_, .get _ .nothing, .unread read⟩
  | panicked =>
    have stopped := eq_panicked_of_reading read
    refine ⟨_, .get _ .nothing, ?_⟩
    rw [stopped]
    exact .stopped
  | done number =>
    by_cases last : number = lastNumber
    · subst last
      exact ⟨_, .get _ .nothing, .exhausted read⟩
    · simp only [if_neg last, Action.run_bind_pure, write_run]
      exact ⟨_, .get _ (.put _ _ _ .nothing), .counted read last⟩

/-- The metadata of a new database is written in one of these ways. -/
theorem setUp_conduct (backend : Backend ω) : (setUp backend).Conducts backend SettingUp := by
  intro machine
  simp only [setUp, Action.run_bind, write_run]
  cases counter : (backend.put MetadataItem.nextHandle.key (Decimal.render firstHandle.toNat)
    .synced machine.state).1 with
  | done value =>
    refine ⟨_, .put _ _ _ (.put _ _ _ .nothing), ?_⟩
    rw [counter]
    exact .counted
  | failed error =>
    refine ⟨_, .put _ _ _ .nothing, ?_⟩
    rw [counter]
    exact .uncounted (by simp)
  | panicked =>
    refine ⟨_, .put _ _ _ .nothing, ?_⟩
    rw [counter]
    exact .uncounted (by simp)

/-- To find out whether a database is initialized is to read its version. -/
theorem isInitialized_run (backend : Backend ω) (machine : Machine ω) :
    (isInitialized backend).run machine =
      ((backend.get MetadataItem.formatVersion.key machine.state).1.ending.map Option.isSome,
        { machine with
          state := (backend.get MetadataItem.formatVersion.key machine.state).2 }) := by
  simp only [isInitialized, Action.run_bind, Action.run_call]
  rcases backend.get MetadataItem.formatVersion.key machine.state with ⟨_ | _ | _, world⟩ <;> rfl

end Metadata

/-- A database is initialized in one of these ways. -/
theorem Recovery.initializeOnce_conduct (backend : Backend ω) :
    (initializeOnce backend).Conducts backend Metadata.Initializing := by
  intro machine
  simp only [initializeOnce, Action.run_bind, Action.run_attempt, Metadata.isInitialized_run]
  cases first : (backend.get MetadataItem.formatVersion.key machine.state).1 with
  | failed error =>
    refine ⟨_, .get _ .nothing, ?_⟩
    rw [first]
    exact .unknown
  | panicked =>
    refine ⟨_, .get _ .nothing, ?_⟩
    rw [first]
    exact .stopped
  | done version =>
    cases version with
    | some version =>
      refine ⟨_, .get _ .nothing, ?_⟩
      rw [first]
      exact .already
    | none =>
      simp only [Reply.ending, Ending.map, Option.isSome, Action.run_bind, Action.run_attempt,
        Action.run_log]
      obtain ⟨exchanges, makes, setting⟩ := Metadata.setUp_conduct backend
        ⟨(backend.get MetadataItem.formatVersion.key machine.state).2,
          { machine.journal with
            lines := machine.journal.lines ++ [⟨.info, "Initializing fresh database"⟩] }⟩
      generalize (Metadata.setUp backend).run _ = outcome at makes setting ⊢
      have set := Metadata.Initializing.settingUp setting
      have made := Backend.Makes.get MetadataItem.formatVersion.key makes
      rw [first] at made
      rcases outcome with ⟨_ | _ | _, later⟩ <;> exact ⟨_, made, set⟩

end ObjectVault
