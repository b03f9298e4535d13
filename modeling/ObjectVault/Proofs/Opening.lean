import ObjectVault.Proofs.AllOrNothing
import ObjectVault.Proofs.Commands

/-!
# Databases that open at the first attempt

`Engine.OpensWith` says that the database of a vault is opened without recovery, and which table is
in it. A vault whose database is initialized then is brought up on this table, or a call of the
database fails (`Engine.OpensWith.bringUp`). So it is with a clean database file that nobody holds
(`Files.Holds.opensWith`), and faults of the calls that follow take nothing from it
(`Scripted.opensWith_scripted`).
-/

namespace ObjectVault

open Exchange

/-- A database that has a version is left alone, unless its version cannot be read. -/
theorem Metadata.Initializing.of_contains {table : Table} {exchanges : List Exchange}
    {ending : Ending Bool} (initialized : table.contains MetadataItem.formatVersion.key = true)
    (truthful : AllTruthful exchanges table) (initializing : Initializing exchanges ending) :
    afterAll exchanges table = table ∧ (ending = .done false ∨
      (∃ exchange ∈ exchanges, ¬ exchange.Succeeds) ∧ ∀ isNew, ending ≠ .done isNew) := by
  cases initializing with
  | unknown => exact ⟨rfl, .inr ⟨⟨_, .head _, by simp [Succeeds]⟩, by simp⟩⟩
  | stopped => exact ⟨rfl, .inr ⟨⟨_, .head _, by simp [Succeeds]⟩, by simp⟩⟩
  | already => exact ⟨rfl, .inl rfl⟩
  | settingUp setting =>
    have absent : none = table.get? MetadataItem.formatVersion.key := truthful.1
    rw [SortedMap.contains, ← absent] at initialized
    cases initialized

/-- Whether no call of a database fails from some time on. -/
def Backend.Reliable {ω : Type} (backend : Backend ω) (world : ω) : Prop :=
  ∀ exchanges later, backend.Makes world exchanges later →
    ∀ exchange ∈ exchanges, exchange.Succeeds

section OpensWith

variable {σ η : Type}

/-- Whether a vault's database is opened without recovery and has a table, of which `held` tells
what is in it. -/
structure Engine.OpensWith (engine : Engine σ η) (held : World σ → Table) (root : Location)
    (world : World σ) (database : η) (opened : World σ) (table : Table) : Prop where
  supported : root.isMemory = true → engine.supportsMemory = true
  opens : engine.openAt root.database {} world = (.ok database, opened)
  before : held world = table
  /-- The calls of the database are truthful about the table and write to it. -/
  keeps : ∀ {exchanges later}, (engine.backend database).Makes opened exchanges later →
    AllTruthful exchanges table ∧ held later = afterAll exchanges table
  /-- What is in the database is still there when it is closed. -/
  closes : ∀ {exchanges later}, (engine.backend database).Makes opened exchanges later →
    held (engine.close database later) = held later

namespace Engine.OpensWith

variable {engine : Engine σ η} {held : World σ → Table} {root : Location} {world : World σ}
  {database : η} {opened : World σ} {table : Table}

/-- A database that has been opened is something to run a vault on. -/
def ground (opensWith : engine.OpensWith held root world database opened table) (suite : Suite) :
    Ground (World σ) where
  services := Vault.services engine suite database
  Has table later :=
    (∃ exchanges, (engine.backend database).Makes opened exchanges later) ∧ held later = table
  reliable := (engine.backend database).Reliable opened
  keeps := by
    rintro _ middle exchanges later ⟨⟨early, made⟩, rfl⟩ makes
    have all := made.trans makes
    obtain ⟨truthful, after⟩ := opensWith.keeps all
    rw [afterAll_append, ← (opensWith.keeps made).2] at after
    have late := (allTruthful_append.1 truthful).2
    rw [← (opensWith.keeps made).2] at late
    refine ⟨late, fun reliable exchange member => ?_, ⟨_, all⟩, after⟩
    exact reliable _ _ all exchange (List.mem_append_right _ member)

/-- An initialized database is brought up as it is, unless a call of it fails. -/
theorem bringUp (opensWith : engine.OpensWith held root world database opened table)
    (initialized : table.contains MetadataItem.formatVersion.key = true) (suite : Suite)
    {config : Config} (location : config.location = root) (journal : Journal) :
    let run := (Vault.bringUp engine config).run ⟨world, journal⟩
    run.1 = .done ⟨database, .opened, false⟩ ∧ (opensWith.ground suite).Has table run.2.state ∨
      ¬ (opensWith.ground suite).reliable ∧ (∀ opened, run.1 ≠ .done opened) ∧
        held run.2.state = table := by
  intro run
  obtain ⟨errors, bringing⟩ :=
    Recovery.bringUp_conduct engine config.sink config.location ⟨world, journal⟩
  change Recovery.BringingUp engine _ _ _ run.1 run.2.state at bringing
  rw [location] at bringing
  generalize run.1 = ending, run.2.state = final at bringing ⊢
  cases bringing with
  | unsupported inMemory lacking =>
    rw [opensWith.supported inMemory] at lacking
    cases lacking
  | unopened staging => cases (staging.of_opens opensWith.opens).1
  | @opened _ handle recovery middle exchanges isNew _ staging makes initializing =>
    obtain ⟨same, rfl⟩ := staging.of_opens opensWith.opens
    cases same
    obtain ⟨truthful, after⟩ := opensWith.keeps makes
    obtain ⟨unchanged, isOld | ⟨_, failing⟩⟩ := initializing.of_contains initialized truthful
    · cases isOld
      exact .inl ⟨rfl, ⟨_, makes⟩, after.trans unchanged⟩
    · exact absurd rfl (failing isNew)
  | @closed _ handle recovery middle exchanges ending _ staging makes initializing failing =>
    obtain ⟨same, rfl⟩ := staging.of_opens opensWith.opens
    cases same
    obtain ⟨truthful, after⟩ := opensWith.keeps makes
    obtain ⟨unchanged, isOld | ⟨⟨exchange, member, fails⟩, _⟩⟩ :=
      initializing.of_contains initialized truthful
    · exact absurd isOld (failing false)
    · refine .inr ⟨fun reliable => fails (reliable _ _ makes exchange member), ?_, ?_⟩
      · intro opened done
        obtain ⟨isNew, done, _⟩ := Ending.map_eq_done.1 done
        exact failing isNew done
      · exact (opensWith.closes makes).trans (after.trans unchanged)

end Engine.OpensWith

end OpensWith

/-- A clean database file that nobody holds is opened, and no call of it fails. -/
theorem Files.Holds.opensWith {root : String} {number : Nat} {table : Table}
    {world : World Files.Memory} (holds : Files.Holds ⟨root⟩ number table .clean world.disk)
    (unlocked : world.disk.isLocked number = false) :
    let database : Files.Database :=
      ⟨databaseFile (Layout.mk root).database, .file number⟩
    ∃ opened,
      Files.engine.OpensWith (Files.table (.file number)) (.directory root) world database opened
        table ∧
      (Files.engine.backend database).Reliable opened := by
  intro database
  obtain ⟨prepares, finds⟩ := holds.findFile
  obtain ⟨taken, takes, inUse⟩ := holds.takeFile unlocked
  have opens : Files.engine.openAt (Layout.mk root).location {} world =
      (.ok database, { world with disk := taken }) := by
    simp [Files.engine, Files.openAt, Layout.location, Files.openFile, prepares, finds, takes,
      database]
  refine ⟨_, ⟨fun _ => rfl, opens, holds.table_eq, fun makes => ?_, fun makes => ?_⟩, ?_⟩
  · obtain ⟨truthful, _, after⟩ := inUse.makes makes
    exact ⟨truthful, after.table_eq⟩
  · obtain ⟨_, _, after⟩ := inUse.makes makes
    rw [after.table_eq]
    exact (after.closed database.label).table_eq
  · intro exchanges later makes
    obtain ⟨_, succeed, _⟩ := inUse.makes makes
    exact succeed

/-- Faults that are scripted for the calls of a database change nothing in how it is opened. -/
theorem Scripted.opensWith_scripted {σ η : Type} {engine : Engine σ η} {held : World σ → Table}
    {root : Location} {world : World (State σ)} {database : η} {opened : World σ} {table : Table}
    (opensWith : engine.OpensWith held root (innerWorld world) database opened table)
    (opening : world.engine.failingOpens = 0) {supportsMemory : Bool}
    (supported : root.isMemory = true → supportsMemory = true) (script : RepairScript) :
    (scripted engine supportsMemory script).OpensWith (fun world => held (innerWorld world)) root
      world database (outerWorld opened world) table where
  supported := supported
  opens := by
    simp only [scripted, openAt, opening, pass, opensWith.opens]
  before := opensWith.before
  keeps makes := by
    obtain ⟨passed, passes⟩ := passes_of_makes makes
    obtain ⟨truthful, after⟩ := opensWith.keeps passes.makes
    exact ⟨passes.truthful _ truthful, by rw [after, passes.effect]⟩
  closes makes := by
    obtain ⟨passed, passes⟩ := passes_of_makes makes
    exact opensWith.closes passes.makes

end ObjectVault
