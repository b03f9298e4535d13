import ObjectVault.Proofs.Adversity
import ObjectVault.Proofs.Lossy
import ObjectVault.Proofs.Soundness

/-!
# How handles are given out

The counter of a database is a numeral if all is well, and may be any bytes at all. What comes of
giving out a handle depends on these bytes and on the fates of the two calls that are made
(`Metadata.Allocates`), and on nothing else. `Metadata.allocation_accurate` says so, with the exact
condition of each answer.
-/

namespace ObjectVault

namespace Decimal

/-- Whether bytes are not read as a 32-bit number. -/
inductive Illegible (text : Bytes) : Prop where
  | empty (nothing : text = [])
  | undigited {byte : UInt8} (member : byte ∈ text) (other : isDigit byte = false)
  | large {number : Nat} (numeral : Numeral text number) (large : UInt32.size ≤ number)

/-- Exactly the illegible texts are not read as a number. -/
theorem parse?_eq_none_iff {text : Bytes} : parse? text = none ↔ Illegible text := by
  constructor
  · intro unread
    by_cases empty : text = []
    · exact .empty empty
    by_cases digits : text.all isDigit = true
    · refine .large (numeral_iff.2 ⟨empty, digits, rfl⟩) (Nat.le_of_not_lt fun small => ?_)
      have readable : text ≠ [] ∧ text.all isDigit = true ∧ value text < UInt32.size :=
        ⟨empty, digits, small⟩
      rw [parse?, if_pos readable] at unread
      cases unread
    · rw [Bool.not_eq_true, List.all_eq_false] at digits
      obtain ⟨byte, member, other⟩ := digits
      exact .undigited member (Bool.eq_false_iff.2 other)
  · intro illegible
    rw [Option.eq_none_iff_forall_ne_some]
    intro number read
    have numeral := parse?_eq_some_iff.1 read
    cases illegible with
    | empty nothing => exact (numeral_iff.1 numeral).1 nothing
    | undigited member other => exact ne_of_isDigit (numeral.isDigit member) other rfl
    | large isLarge large =>
      have same := numeral.unique isLarge
      have small : number.toNat < UInt32.size := number.toNat_lt
      omega

/-- Bytes that are no text are not read as a number. -/
theorem Illegible.of_notText {text : Bytes} (notText : Utf8.decode? text = none) :
    Illegible text := by
  rw [← parse?_eq_none_iff, Option.eq_none_iff_forall_ne_some]
  intro number read
  exact Utf8.decode?_ne_none_of_ascii (parse?_eq_some_iff.1 read).ascii notText

end Decimal

/-- Whether the counter of a database is a numeral of a number. -/
def Table.StandsAt (table : Table) (number : Nat) : Prop :=
  ∃ text, table.get? MetadataItem.nextHandle.key = some text ∧ Decimal.Numeral text number

namespace Metadata

/-- The fate of the call that reads the counter if a handle is given out in a world. -/
def readingFate (adversity : Adversity) (world : World Storage) : Fate :=
  adversity.fateIn world .get MetadataItem.nextHandle.key

/-- The fate of the call that moves the counter then. -/
def movingFate (adversity : Adversity) (world : World Storage) : Fate :=
  adversity.fate (world.engine.history.record.length + 1) .put MetadataItem.nextHandle.key

/-- What comes of giving out a handle, and what is left in the database. -/
inductive Allocates (adversity : Adversity) (world : World Storage) :
    Ending Handle → Table → Prop where
  | unread {error visited} (fails : readingFate adversity world = .fails error visited) :
      Allocates adversity world (.failed (.backend error)) world.engine.history.table
  | stopped {visited} (panics : readingFate adversity world = .panics visited) :
      Allocates adversity world .panicked world.engine.history.table
  | missing (works : readingFate adversity world = .works)
      (absent : world.engine.history.table.get? MetadataItem.nextHandle.key = none) :
      Allocates adversity world (.failed (.missingMetadata .nextHandle)) world.engine.history.table
  | invalid {text} (works : readingFate adversity world = .works)
      (stored : world.engine.history.table.get? MetadataItem.nextHandle.key = some text)
      (illegible : Decimal.Illegible text) :
      Allocates adversity world (.failed (.invalidMetadata .nextHandle (Utf8.lossy text)))
        world.engine.history.table
  | exhausted (works : readingFate adversity world = .works)
      (stands : world.engine.history.table.StandsAt lastNumber.toNat) :
      Allocates adversity world (.failed .idSpaceExhausted) world.engine.history.table
  | unmoved {number : UInt32} {error visited} (works : readingFate adversity world = .works)
      (stands : world.engine.history.table.StandsAt number.toNat) (left : number ≠ lastNumber)
      (fails : movingFate adversity world = .fails error visited) :
      Allocates adversity world (.failed (.backend error)) world.engine.history.table
  | stoppedMoving {number : UInt32} {visited} (works : readingFate adversity world = .works)
      (stands : world.engine.history.table.StandsAt number.toNat) (left : number ≠ lastNumber)
      (panics : movingFate adversity world = .panics visited) :
      Allocates adversity world .panicked world.engine.history.table
  | issued {number : UInt32} (works : readingFate adversity world = .works)
      (stands : world.engine.history.table.StandsAt number.toNat) (left : number ≠ lastNumber)
      (moves : movingFate adversity world = .works) :
      Allocates adversity world (.done ⟨number⟩)
        (world.engine.history.table.insert MetadataItem.nextHandle.key
          (Decimal.render (number.toNat + 1)))

section Run

variable {adversity : Adversity} {machine : Machine (World Storage)} {ending : Ending Handle}
  {after : Table}

/-- Giving out a handle is a matter of what the counter is read as, and then of the fate of the call
that moves it. -/
theorem allocate_run (adversity : Adversity) (machine : Machine (World Storage)) :
    let reply := (readingFate adversity machine.state).reply
      (machine.state.engine.history.table.get? MetadataItem.nextHandle.key)
    let later := Adversity.note machine.state (.get MetadataItem.nextHandle.key reply)
    let moved := (movingFate adversity machine.state).reply ()
    (allocate adversity.backend).run machine =
      match reading .nextHandle reply with
      | .failed error => (.failed error, { machine with state := later })
      | .panicked => (.panicked, { machine with state := later })
      | .done number =>
        if number = lastNumber then (.failed .idSpaceExhausted, { machine with state := later })
        else
          (moved.ending.map fun _ => ⟨number⟩, { machine with
            state := Adversity.note later
              (.put MetadataItem.nextHandle.key (Decimal.render (number + 1).toNat) .synced
                moved) }) := by
  intro reply later moved
  have got : adversity.backend.get MetadataItem.nextHandle.key machine.state = (reply, later) := rfl
  have fate : adversity.fateIn later .put MetadataItem.nextHandle.key =
      movingFate adversity machine.state := by
    simp [Adversity.fateIn, movingFate, later, Adversity.note, History.making, Exchange.entries]
  have put (value : Bytes) :
      adversity.backend.put MetadataItem.nextHandle.key value .synced later =
        (moved, Adversity.note later (.put MetadataItem.nextHandle.key value .synced moved)) := by
    simp only [Adversity.backend, fate]
    rfl
  simp only [allocate, Action.run_bind (require adversity.backend .nextHandle), require_run, got]
  cases reading .nextHandle reply with
  | failed error => rfl
  | panicked => rfl
  | done number =>
    by_cases last : number = lastNumber
    · simp only [if_pos last]
      rfl
    · simp only [if_neg last, Action.run_bind_pure, write_run, put]

/-- What is read of a counter that stands at a number. -/
theorem reading_of_standsAt {table : Table} {number : UInt32}
    (stands : table.StandsAt number.toNat) :
    reading .nextHandle (.done (table.get? MetadataItem.nextHandle.key)) = .done number := by
  obtain ⟨text, stored, numeral⟩ := stands
  simp [stored, reading, Decimal.parse?_eq_some_iff.2 numeral]

/-- A handle is given out in each of these ways. -/
theorem run_of_allocates (allocates : Allocates adversity machine.state ending after) :
    ((allocate adversity.backend).run machine).1 = ending ∧
      ((allocate adversity.backend).run machine).2.state.engine.history.table = after := by
  rw [allocate_run]
  cases allocates with
  | unread fails =>
    rw [fails]
    exact ⟨rfl, rfl⟩
  | stopped panics =>
    rw [panics]
    exact ⟨rfl, rfl⟩
  | missing works absent =>
    rw [works, absent]
    exact ⟨rfl, rfl⟩
  | invalid works stored illegible =>
    have read := Decimal.parse?_eq_none_iff.2 illegible
    rw [works, stored]
    simp only [Fate.reply, reading, read]
    exact ⟨trivial, rfl⟩
  | exhausted works stands =>
    rw [works]
    simp only [Fate.reply, reading_of_standsAt stands, if_true]
    exact ⟨trivial, rfl⟩
  | unmoved works stands left fails =>
    rw [works, fails]
    simp only [Fate.reply, reading_of_standsAt stands, if_neg left]
    exact ⟨rfl, rfl⟩
  | stoppedMoving works stands left panics =>
    rw [works, panics]
    simp only [Fate.reply, reading_of_standsAt stands, if_neg left]
    exact ⟨rfl, rfl⟩
  | issued works stands left moves =>
    rw [works, moves]
    simp only [Fate.reply, reading_of_standsAt stands, if_neg left, ← toNat_add_one left]
    exact ⟨rfl, rfl⟩

/-- The conditions of these ways leave nothing out. -/
theorem exists_allocates (adversity : Adversity) (world : World Storage) :
    ∃ ending after, Allocates adversity world ending after := by
  cases works : readingFate adversity world with
  | fails error visited => exact ⟨_, _, .unread works⟩
  | panics visited => exact ⟨_, _, .stopped works⟩
  | works =>
    cases stored : world.engine.history.table.get? MetadataItem.nextHandle.key with
    | none => exact ⟨_, _, .missing works stored⟩
    | some text =>
      cases read : Decimal.parse? text with
      | none => exact ⟨_, _, .invalid works stored (Decimal.parse?_eq_none_iff.1 read)⟩
      | some number =>
        have stands : world.engine.history.table.StandsAt number.toNat :=
          ⟨text, stored, Decimal.parse?_eq_some_iff.1 read⟩
        by_cases last : number = lastNumber
        · subst last
          exact ⟨_, _, .exhausted works stands⟩
        · cases moves : movingFate adversity world with
          | works => exact ⟨_, _, .issued works stands last moves⟩
          | fails error visited => exact ⟨_, _, .unmoved works stands last moves⟩
          | panics visited => exact ⟨_, _, .stoppedMoving works stands last moves⟩

/-- What comes of giving out a handle is the one thing that may come of it. -/
theorem allocates_iff : Allocates adversity machine.state ending after ↔
    ((allocate adversity.backend).run machine).1 = ending ∧
      ((allocate adversity.backend).run machine).2.state.engine.history.table = after := by
  refine ⟨run_of_allocates, ?_⟩
  rintro ⟨rfl, rfl⟩
  obtain ⟨ending, after, allocates⟩ := exists_allocates adversity machine.state
  obtain ⟨isEnding, isAfter⟩ := run_of_allocates allocates
  rw [isEnding, isAfter]
  exact allocates

end Run

/-- A number below the last one is one of those that are left. -/
theorem toNat_lt_iff {number : UInt32} : number.toNat < UInt32.size - 1 ↔ number ≠ lastNumber := by
  have bounded : number.toNat < UInt32.size := number.toNat_lt
  have last : lastNumber.toNat = UInt32.size - 1 := rfl
  rw [Ne, ← UInt32.toNat_inj, last]
  omega

/-- What may come of giving out a handle, and what is left in the database. -/
structure Allocation (adversity : Adversity) (world : World Storage) (ending : Ending Handle)
    (after : Table) : Prop where
  /-- A handle is given out exactly if the counter is a numeral of it, which is less than the last
  number, and both calls work. -/
  issued (handle : Handle) : ending = .done handle ↔
    readingFate adversity world = .works ∧
      world.engine.history.table.StandsAt handle.number.toNat ∧
        handle.number.toNat < UInt32.size - 1 ∧ movingFate adversity world = .works
  /-- Then the digits of the next number are stored, which has 32 bits as well, and nothing else is
  changed. -/
  moved (handle : Handle) : ending = .done handle →
    handle.number.toNat + 1 < UInt32.size ∧
      after = world.engine.history.table.insert MetadataItem.nextHandle.key
        (Decimal.render (handle.number.toNat + 1))
  /-- Otherwise nothing is changed. -/
  unchanged : (∀ handle, ending ≠ .done handle) → after = world.engine.history.table
  /-- The counter is missing if there is none. -/
  missing (item : MetadataItem) : ending = .failed (.missingMetadata item) ↔
    item = .nextHandle ∧ readingFate adversity world = .works ∧
      world.engine.history.table.get? MetadataItem.nextHandle.key = none
  /-- It is invalid if it is not read as a 32-bit number, and is shown as text then. -/
  invalid (item : MetadataItem) (shown : String) : ending = .failed (.invalidMetadata item shown) ↔
    item = .nextHandle ∧ readingFate adversity world = .works ∧
      ∃ text, world.engine.history.table.get? MetadataItem.nextHandle.key = some text ∧
        Decimal.Illegible text ∧ shown = Utf8.lossy text
  /-- It is at its end if it stands at the last number. -/
  exhausted : ending = .failed .idSpaceExhausted ↔
    readingFate adversity world = .works ∧
      world.engine.history.table.StandsAt (UInt32.size - 1)
  /-- An error of the database is that of the call that fails. -/
  failing (error : BackendError) : ending = .failed (.backend error) ↔
    (∃ visited, readingFate adversity world = .fails error visited) ∨
      readingFate adversity world = .works ∧
        (∃ number < UInt32.size - 1, world.engine.history.table.StandsAt number) ∧
          ∃ visited, movingFate adversity world = .fails error visited
  /-- There is a panic only if a call panics. -/
  panicking : ending = .panicked ↔
    (∃ visited, readingFate adversity world = .panics visited) ∨
      readingFate adversity world = .works ∧
        (∃ number < UInt32.size - 1, world.engine.history.table.StandsAt number) ∧
          ∃ visited, movingFate adversity world = .panics visited
  /-- There are no other errors. -/
  others (error : VaultError) : ending = .failed error →
    error = .missingMetadata .nextHandle ∨ (∃ shown, error = .invalidMetadata .nextHandle shown) ∨
      error = .idSpaceExhausted ∨ ∃ cause, error = .backend cause

/-- A handle is given out exactly as the counter and the fates of the calls say. -/
theorem allocation_of_run (adversity : Adversity) (machine : Machine (World Storage)) :
    Allocation adversity machine.state ((allocate adversity.backend).run machine).1
      ((allocate adversity.backend).run machine).2.state.engine.history.table := by
  have allocates : Allocates adversity machine.state _ _ := allocates_iff.2 ⟨rfl, rfl⟩
  -- The conditions of an answer are those of one of the ways, so that it is that one that is taken.
  have only {other : Ending Handle} {others : Table}
      (also : Allocates adversity machine.state other others) :
      ((allocate adversity.backend).run machine).1 = other := (run_of_allocates also).1
  generalize ((allocate adversity.backend).run machine).1 = ending,
    ((allocate adversity.backend).run machine).2.state.engine.history.table = after
    at allocates only ⊢
  have left {number : Nat} (small : number < UInt32.size - 1) :
      ∃ found : UInt32, found.toNat = number ∧ found ≠ lastNumber := by
    have same : (UInt32.ofNat number).toNat = number := UInt32.toNat_ofNat_of_lt' (by omega)
    exact ⟨UInt32.ofNat number, same, toNat_lt_iff.1 (by rwa [same])⟩
  constructor
  case issued =>
    intro handle
    constructor
    · rintro rfl
      cases allocates with
      | issued works stands left moves => exact ⟨works, stands, toNat_lt_iff.2 left, moves⟩
    · rintro ⟨works, stands, small, moves⟩
      exact only (.issued works stands (toNat_lt_iff.1 small) moves)
  case moved =>
    rintro handle rfl
    cases allocates with
    | @issued number works stands left moves =>
      have small := toNat_lt_iff.2 left
      have next : number.toNat + 1 < UInt32.size := by omega
      exact ⟨next, rfl⟩
  case unchanged =>
    intro failing
    cases allocates with
    | issued => exact absurd rfl (failing _)
    | _ => rfl
  case missing =>
    intro item
    constructor
    · rintro rfl
      cases allocates with
      | missing works absent => exact ⟨rfl, works, absent⟩
    · rintro ⟨rfl, works, absent⟩
      exact only (.missing works absent)
  case invalid =>
    intro item shown
    constructor
    · rintro rfl
      cases allocates with
      | invalid works stored illegible => exact ⟨rfl, works, _, stored, illegible, rfl⟩
    · rintro ⟨rfl, works, text, stored, illegible, rfl⟩
      exact only (.invalid works stored illegible)
  case exhausted =>
    constructor
    · rintro rfl
      cases allocates with
      | exhausted works stands => exact ⟨works, stands⟩
    · rintro ⟨works, stands⟩
      exact only (.exhausted works stands)
  case failing =>
    intro error
    constructor
    · rintro rfl
      cases allocates with
      | unread fails => exact .inl ⟨_, fails⟩
      | unmoved works stands left fails =>
        exact .inr ⟨works, ⟨_, toNat_lt_iff.2 left, stands⟩, _, fails⟩
    · rintro (⟨visited, fails⟩ | ⟨works, ⟨number, small, stands⟩, visited, fails⟩)
      · exact only (.unread fails)
      · obtain ⟨found, rfl, notLast⟩ := left small
        exact only (.unmoved works stands notLast fails)
  case panicking =>
    constructor
    · rintro rfl
      cases allocates with
      | stopped panics => exact .inl ⟨_, panics⟩
      | stoppedMoving works stands left panics =>
        exact .inr ⟨works, ⟨_, toNat_lt_iff.2 left, stands⟩, _, panics⟩
    · rintro (⟨visited, panics⟩ | ⟨works, ⟨number, small, stands⟩, visited, panics⟩)
      · exact only (.stopped panics)
      · obtain ⟨found, rfl, notLast⟩ := left small
        exact only (.stoppedMoving works stands notLast panics)
  case others =>
    rintro error rfl
    cases allocates with
    | unread => exact .inr (.inr (.inr ⟨_, rfl⟩))
    | missing => exact .inl rfl
    | invalid => exact .inr (.inl ⟨_, rfl⟩)
    | exhausted => exact .inr (.inr (.inl rfl))
    | unmoved => exact .inr (.inr (.inr ⟨_, rfl⟩))

/-- A number that is written is read back, if both calls work. -/
theorem read_write {adversity : Adversity} {machine : Machine (World Storage)}
    {item : MetadataItem} (number : UInt32)
    (writes : adversity.fateIn machine.state .put item.key = .works)
    (reads : adversity.fate (machine.state.engine.history.record.length + 1) .get item.key =
      .works) :
    ((write adversity.backend item number >>= fun _ => read adversity.backend item).run
      machine).1 = .done (some number) := by
  let text := Decimal.render number.toNat
  let later := Adversity.note machine.state (.put item.key text .synced (.done ()))
  have put : adversity.backend.put item.key text .synced machine.state = (.done (), later) := by
    simp only [Adversity.backend, writes]
    rfl
  have fate : adversity.fateIn later .get item.key = .works := by
    rw [← reads]
    simp [Adversity.fateIn, later, Adversity.note, History.making, Exchange.entries]
  have stored : later.engine.history.table.get? item.key = some text :=
    SortedMap.get?_insert_self _ _ _
  have got : (adversity.backend.get item.key later).1 = .done (some text) := by
    simp only [Adversity.backend, fate, stored]
    rfl
  simp only [Action.run_bind (write adversity.backend item number), write_run]
  rw [put]
  simp only [Reply.ending, read, Action.run_bind, Action.run_call]
  generalize adversity.backend.get item.key later = answered at got ⊢
  obtain ⟨reply, world⟩ := answered
  cases got
  simp only [text, Decimal.parse?_render]
  rfl

/-- Whether the counter of a database is kept accurately, whatever is stored there. -/
structure Accurate (adversity : Adversity) (machine : Machine (World Storage)) : Prop where
  allocation : Allocation adversity machine.state ((allocate adversity.backend).run machine).1
    ((allocate adversity.backend).run machine).2.state.engine.history.table
  /-- What is no text is not read as a number. -/
  notText (text : Bytes) : Utf8.decode? text = none → Decimal.Illegible text
  /-- A number is read from bytes as it is from the text that is shown for them. -/
  shown (raw : Bytes) : Decimal.parse? (Bytes.ofText (Utf8.lossy raw)) = Decimal.parse? raw
  /-- Every number that is written is read back, if both calls work. -/
  readBack (item : MetadataItem) (number : UInt32) :
    adversity.fateIn machine.state .put item.key = .works →
      adversity.fate (machine.state.engine.history.record.length + 1) .get item.key = .works →
        ((write adversity.backend item number >>= fun _ => read adversity.backend item).run
          machine).1 = .done (some number)

/-- Whatever is stored in a database, and whichever calls fail, the counter is kept accurately. -/
theorem allocation_accurate (adversity : Adversity) (machine : Machine (World Storage)) :
    Accurate adversity machine where
  allocation := allocation_of_run adversity machine
  notText _ := Decimal.Illegible.of_notText
  shown := Decimal.parse?_lossy
  readBack _ number := read_write number

/-- The last handle, the last number, and the first one that has too many bits. -/
example :
    (["04294967294", "4294967295", "4294967296"].map fun text =>
      ((allocate Table.backend).run
        ⟨.ofList [(MetadataItem.nextHandle.key, Bytes.ofText text)], {}⟩).1) =
      [.done ⟨4294967294⟩, .failed .idSpaceExhausted,
        .failed (.invalidMetadata .nextHandle "4294967296")] := by
  decide +kernel

end Metadata

end ObjectVault
