import ObjectVault.Config
import ObjectVault.Proofs.Conservation
import ObjectVault.Proofs.Quarantine

/-!
# What recovery keeps

Apart from the engine, which is supposed to conserve what there is, only one thing takes anything
away from a disk while a database is brought up: the move to the quarantine, once the second stage
has failed as well (`BringingUp.course`). So a database that opens, or does so once repaired, stays
in its place. The kind of an error plays no part in this: a database that is only in use by someone
else is moved aside too. What is in quarantine is lost only to the database that takes its place
(`Replaces`), or for nothing (`Wastes`). The latter happens when a vault fails to open twice in a
row, as there is no database then the second time, and when the operating system refuses to move the
database after the quarantine has been removed.
-/

namespace ObjectVault

open Disk

variable {σ η β : Type} {engine : Engine σ η} {view : FileContent → β}

/-- Nothing but metadata is read and written while a database is initialized. -/
theorem Metadata.Initializing.isMetadata {exchanges : List Exchange} {ending : Ending Bool}
    (initializing : Initializing exchanges ending) :
    ∀ exchange ∈ exchanges, exchange.IsMetadata := by
  cases initializing with
  | settingUp setting =>
    have reads (key : Bytes) (reply : Reply (Option Bytes)) :
        (Exchange.get key reply).IsMetadata := trivial
    have writes (item : MetadataItem) (value : Bytes) (reply : Reply Unit) :
        (Exchange.put item.key value .synced reply).IsMetadata := ⟨item, rfl⟩
    cases setting with
    | uncounted => simp [reads, writes]
    | counted => simp [reads, writes]
  | _ => simp [Exchange.IsMetadata]

/-- A repair, and the opening after it, take nothing away. -/
theorem Engine.Conserves.mend (conserves : engine.Conserves view) (location : Location)
    {world : World σ} (proper : world.disk.Proper) :
    Later view world.disk (engine.mend location world).2.disk := by
  have repaired := conserves.repair location world proper
  unfold Engine.mend
  split
  · next repairs =>
    rw [repairs] at repaired
    exact repaired.trans (conserves.openAt location {} _ repaired.proper)
  · next repairs =>
    rw [repairs] at repaired
    exact repaired

namespace Recovery

/-- A disk is proper after a database has been set aside, or where there is none to be. -/
theorem proper_cleared (layout : Option Layout) {disk : Disk} (proper : disk.Proper) :
    (cleared layout disk).Proper := by
  cases layout with
  | none => exact proper
  | some layout => exact Layout.proper_moveAside proper

/-- What becomes of a disk while a database is brought up, by the number of stages that fail and
what the first two leave. -/
inductive Course (view : FileContent → β) (layout : Option Layout) (failures : Nat)
    (before left after : Disk) : Prop where
  | kept (few : failures < 2) (later : Later view before after)
  /-- Nothing is taken away before the database is set aside, nor after that. -/
  | aside (many : 2 ≤ failures) (early : Later view before left)
      (late : Later view (cleared layout left) after)

namespace Course

variable {layout : Option Layout} {failures : Nat} {before left middle after : Disk}

/-- A disk is proper after the course of an attempt. -/
theorem proper (course : Course view layout failures before left after) : after.Proper := by
  cases course with
  | kept _ later => exact later.proper
  | aside _ _ late => exact late.proper

/-- Whatever takes nothing away may follow. -/
theorem trans (course : Course view layout failures before left middle)
    (later : Later view middle after) : Course view layout failures before left after := by
  cases course with
  | kept few early => exact .kept few (early.trans later)
  | aside many early late => exact .aside many early (late.trans later)

end Course

variable {layout : Option Layout} {location : Location} {world later : World σ}
  {errors : List BackendError}

/-- The stages take nothing away but what is set aside. -/
theorem Staging.course {ending : Ending (η × Recovery)} (conserves : engine.Conserves view)
    (proper : world.disk.Proper)
    (staging : Staging engine layout location world errors ending later) :
    Course view layout errors.length world.disk (engine.tried location world).disk
      later.disk := by
  have opened := conserves.openAt location {} world proper
  -- What the third stage meets is what the first two have left, set aside.
  have last {openError mendError : BackendError} {tried left : World σ}
      (fails : engine.openAt location {} world = (.error openError, tried))
      (unmended : engine.mend location tried = (.error mendError, left)) :
      engine.tried location world = left ∧ Later view world.disk left.disk ∧
        Later view (cleared layout left.disk)
          (engine.openAt location {} (setAside layout left)).2.disk := by
    rw [fails] at opened
    have mended := conserves.mend location opened.proper
    rw [unmended] at mended
    have early := opened.trans mended
    refine ⟨by rw [Engine.tried, fails, unmended], early, ?_⟩
    exact conserves.openAt location {} (setAside layout left)
      (proper_cleared layout early.proper)
  cases staging with
  | opened opens =>
    rw [opens] at opened
    exact .kept (by simp) opened
  | repaired fails mends =>
    rw [fails] at opened
    have mended := conserves.mend location opened.proper
    rw [mends] at mended
    exact .kept (by simp) (opened.trans mended)
  | recreated fails unmended opens =>
    obtain ⟨rfl, early, late⟩ := last fails unmended
    rw [opens] at late
    exact .aside (by simp) early late
  | lost fails unmended lost =>
    obtain ⟨rfl, early, late⟩ := last fails unmended
    rw [lost] at late
    exact .aside (by simp) early late

/-- What is open after a repair was opened on a proper disk. -/
theorem opening_of_mend {handle : η} (conserves : engine.Conserves view)
    (proper : world.disk.Proper) (mends : engine.mend location world = (.ok handle, later)) :
    ∃ before : World σ, before.disk.Proper ∧
      engine.openAt location {} before = (.ok handle, later) := by
  have repaired := conserves.repair location world proper
  unfold Engine.mend at mends
  split at mends
  · next repairs =>
    rw [repairs] at repaired
    exact ⟨_, repaired.proper, mends⟩
  · cases mends

/-- What is open in the end was opened on a proper disk. -/
theorem Staging.opening {handle : η} {recovery : Recovery} (conserves : engine.Conserves view)
    (proper : world.disk.Proper)
    (staging : Staging engine layout location world errors (.done (handle, recovery)) later) :
    ∃ before : World σ, before.disk.Proper ∧
      engine.openAt location {} before = (.ok handle, later) := by
  have opened := conserves.openAt location {} world proper
  cases staging with
  | opened opens => exact ⟨world, proper, opens⟩
  | repaired fails mends =>
    rw [fails] at opened
    exact opening_of_mend conserves opened.proper mends
  | recreated fails unmended opens =>
    rw [fails] at opened
    have mended := conserves.mend location opened.proper
    rw [unmended] at mended
    exact ⟨_, proper_cleared layout mended.proper, opens⟩

/-- To bring up a database takes nothing away but what is set aside. -/
theorem BringingUp.course {root : Location} {ending : Ending (Opened η)}
    (conserves : engine.Conserves view) (proper : world.disk.Proper)
    (bringing : BringingUp engine root world errors ending later) :
    Course view root.layout? errors.length world.disk (engine.tried root.database world).disk
      later.disk := by
  have initialized {handle : η} {recovery : Recovery} {middle last : World σ}
      {exchanges : List Exchange} {ending : Ending Bool}
      (staging : Staging engine root.layout? root.database world errors
        (.done (handle, recovery)) middle)
      (makes : (engine.backend handle).Makes middle exchanges last)
      (initializing : Metadata.Initializing exchanges ending) :
      Course view root.layout? errors.length world.disk (engine.tried root.database world).disk
        last.disk := by
    obtain ⟨before, alsoProper, opens⟩ := staging.opening conserves proper
    exact (staging.course conserves proper).trans
      (conserves.metadata alsoProper opens makes initializing.isMetadata)
  cases bringing with
  | unsupported => exact .kept (by simp) (.refl proper)
  | unopened staging => exact staging.course conserves proper
  | opened staging makes initializing => exact initialized staging makes initializing
  | closed staging makes initializing failing =>
    have course := initialized staging makes initializing
    exact course.trans (conserves.close _ _ course.proper)

end Recovery

namespace Vault

/-- Unless a database fails to open and then fails to be repaired and opened, it stays where it is
with what is in it, however the attempt to open the vault ends. -/
theorem carries_database {config : Config} {root : String} (conserves : engine.Conserves view)
    (location : config.location = .directory root) (machine : Machine (World σ))
    (proper : machine.state.disk.Proper)
    (few : (Recovery.failures engine (some ⟨root⟩) (Layout.mk root).location
      machine.state).length < 2) :
    Carries view (Layout.mk root).databasePath (Layout.mk root).databasePath machine.state.disk
      ((bringUp engine config).run machine).2.state.disk := by
  obtain ⟨errors, bringing⟩ := Recovery.bringUp_conduct engine config.sink config.location machine
  rw [location] at bringing
  rw [← bringing.errors_eq] at few
  cases bringing.course conserves proper with
  | kept _ later =>
    rw [bringUp, location]
    exact later.carries _
  | aside many => omega

/-- The world after an attempt to open the vault below a root directory. -/
def attempted (engine : Engine σ η) (root : String) (world : World σ) : World σ :=
  ((bringUp engine (.atRoot root)).run ⟨world, {}⟩).2.state

/-- A world in which a vault is open. -/
def inUse : World Files.Memory := attempted Files.engine "r" { engine := {} }

/-- A world in which a vault was open when its user stopped. -/
def abandoned : World Files.Memory := { inUse with disk.locked := [] }

/-- A database that was left behind in use is repaired in its place. -/
theorem carries_abandoned :
    abandoned.disk.Proper ∧
      (Recovery.failures Files.engine (some ⟨"r"⟩) (Layout.mk "r").location
        abandoned).map BackendError.isCorruption = [true] ∧
      Carries Files.essence (Layout.mk "r").databasePath (Layout.mk "r").databasePath
        abandoned.disk ((bringUp Files.engine (.atRoot "r")).run ⟨abandoned, {}⟩).2.state.disk := by
  have proper : abandoned.disk.Proper := by decide +kernel
  have failures : (Recovery.failures Files.engine (some ⟨"r"⟩) (Layout.mk "r").location
      abandoned).map BackendError.isCorruption = [true] := by decide +kernel
  refine ⟨proper, failures, carries_database Files.conserves_engine rfl ⟨abandoned, {}⟩ proper ?_⟩
  rw [← List.length_map BackendError.isCorruption, failures]
  decide

/-- A database that is in use elsewhere is moved aside, although no error says that it is
inconsistent. -/
theorem moved_in_use :
    ¬ ∀ engine : Engine Files.Memory Files.Database, engine.Conserves Files.essence →
      ∀ (root : String) (machine : Machine (World Files.Memory)), machine.state.disk.Proper →
        (∀ error ∈ Recovery.failures engine (some ⟨root⟩) (Layout.mk root).location
          machine.state, error.isCorruption = false) →
        Carries Files.essence (Layout.mk root).databasePath (Layout.mk root).databasePath
          machine.state.disk ((bringUp engine (.atRoot root)).run machine).2.state.disk := by
  intro claim
  have carried := claim Files.engine Files.conserves_engine "r" ⟨inUse, {}⟩ (by decide +kernel)
    (by decide +kernel)
  have before : inUse.disk.find ((Layout.mk "r").databasePath ++ ["store.redb"]) =
      .ok (.file 0) := by rfl
  have after : ((bringUp Files.engine (.atRoot "r")).run ⟨inUse, {}⟩).2.state.disk.find
      ((Layout.mk "r").databasePath ++ ["store.redb"]) = .ok (.file 1) := by rfl
  have same := carried.node before
  rw [after] at same
  cases same

end Vault

namespace Recovery

variable {root : String}

/-- Whether an attempt to open a vault moves the database that is in use to the quarantine. -/
structure Replaces (engine : Engine σ η) (view : FileContent → β) (layout : Layout)
    (world : World σ) (after : Disk) : Prop where
  /-- The database cannot be opened and cannot be repaired. -/
  fails : 2 ≤ (failures engine (some layout) layout.location world).length
  found : ∃ node, (engine.tried layout.location world).disk.find layout.databasePath = .ok node
  carried : Carries view layout.databasePath layout.quarantinePath
    (engine.tried layout.location world).disk after

/-- Whether an attempt to open a vault takes something from the quarantine and puts nothing in its
place. -/
structure Wastes (engine : Engine σ η) (layout : Layout) (world : World σ) : Prop where
  fails : 2 ≤ (failures engine (some layout) layout.location world).length
  /-- The quarantine is removed for a database that is not moved there, or a part of it is removed
  before the operating system refuses to go on. -/
  cause : layout.Drops (engine.tried layout.location world).disk ∨
    layout.Tears (engine.tried layout.location world).disk

/-- Some attempts to open a vault, with the world before and the disk after each. Whatever happens
between two of them takes nothing away. -/
inductive Attempts (engine : Engine σ η) (view : FileContent → β) (root : String) :
    World σ → List (World σ × Disk) → World σ → Prop where
  | none {world} : Attempts engine view root world [] world
  | attempt {config journal world steps last} (location : config.location = .directory root)
      (attempts : Attempts engine view root
        ((Vault.bringUp engine config).run ⟨world, journal⟩).2.state steps last) :
      Attempts engine view root world
        ((world, ((Vault.bringUp engine config).run ⟨world, journal⟩).2.state.disk) :: steps) last
  | meanwhile {world other steps last} (later : Later view world.disk other.disk)
      (attempts : Attempts engine view root other steps last) :
      Attempts engine view root world steps last

/-- One attempt makes a history of attempts. -/
theorem Attempts.once (engine : Engine σ η) (view : FileContent → β) (root : String)
    (world : World σ) :
    Attempts engine view root world [(world, (Vault.attempted engine root world).disk)]
      (Vault.attempted engine root world) :=
  @Attempts.attempt _ _ _ _ _ _ (.atRoot root) {} _ _ _ rfl .none

/-- What is in quarantine stays there in an attempt, or the database takes its place, or it is lost
for nothing. -/
theorem BringingUp.quarantine {ending : Ending (Opened η)} (conserves : engine.Conserves view)
    (proper : world.disk.Proper)
    (bringing : BringingUp engine (.directory root) world errors ending later) :
    Carries view (Layout.mk root).quarantinePath (Layout.mk root).quarantinePath
        world.disk later.disk ∨
      Replaces engine view ⟨root⟩ world later.disk ∨ Wastes engine ⟨root⟩ world := by
  have fails := bringing.errors_eq
  cases bringing.course conserves proper with
  | kept few kept => exact .inl (kept.carries _)
  | aside many early late =>
    rw [fails] at many
    change Later view ((Layout.mk root).moveAside _).2 later.disk at late
    cases moves : ((Layout.mk root).moveAside
        (engine.tried (Layout.mk root).location world).disk).1 with
    | error error =>
      rcases Layout.inside_moveAside early.proper moves with same | ⟨drops, _⟩ | tears
      · rw [same] at late
        exact .inl ((early.trans late).carries _)
      · exact .inr (.inr ⟨many, .inl drops⟩)
      · exact .inr (.inr ⟨many, .inr tears⟩)
    | ok =>
      have found := ((Layout.moveAside_eq_ok_iff early.proper).1 moves).1
      refine .inr (.inl ⟨many, found, ?_⟩)
      exact (Layout.carries_moveAside_of_ok early.proper moves).trans (late.carries _)

/-- What is kept of the database and of the quarantine, and when. -/
structure QuarantineKept (engine : Engine σ η) (view : FileContent → β) (layout : Layout) :
    Prop where
  /-- If the database cannot be moved aside, nothing has changed outside the quarantine. -/
  outside : ∀ disk error, disk.Proper → (layout.moveAside disk).1 = .error error →
    (layout.moveAside disk).2.files = disk.files ∧ ∀ path, ¬ layout.quarantinePath <+: path →
      (layout.moveAside disk).2.nodes.get? path = disk.nodes.get? path
  /-- Nor has anything in quarantine, unless there is no database or the operating system refuses to
  move it, or refuses to go on when it has removed something. -/
  inside : ∀ disk error, disk.Proper → (layout.moveAside disk).1 = .error error →
    (layout.moveAside disk).2 = disk ∨
      layout.Drops disk ∧ (layout.moveAside disk).2 = disk.without layout.quarantinePath ∨
      layout.Tears disk
  /-- In the first of these cases the quarantine is always lost. -/
  dropped : ∀ disk, disk.Proper → layout.Drops disk →
    ∃ error, layout.moveAside disk = (.error error, disk.without layout.quarantinePath)
  /-- However many attempts there are to open the vault, what is in quarantine at first is there in
  the end, or in one of them the database takes its place, or it is lost for nothing in one. -/
  attempts : ∀ world steps last, world.disk.Proper →
    Attempts engine view layout.root world steps last →
      Carries view layout.quarantinePath layout.quarantinePath world.disk last.disk ∨
        ∃ step ∈ steps, Replaces engine view layout step.1 step.2 ∨ Wastes engine layout step.1

/-- The quarantine is lost only to the database that takes its place, or to a removal after which
the database is not moved. -/
theorem quarantineKept (conserves : engine.Conserves view) (layout : Layout) :
    QuarantineKept engine view layout where
  outside _ _ proper fails := Layout.outside_moveAside proper fails
  inside _ _ proper fails := Layout.inside_moveAside proper fails
  dropped _ proper drops := drops.moveAside proper
  attempts := by
    intro world steps last proper attempts
    induction attempts with
    | none => exact .inl ((Later.refl proper).carries _)
    | @attempt config journal world steps last location attempts ih =>
      obtain ⟨errors, bringing⟩ :=
        bringUp_conduct engine config.sink config.location ⟨world, journal⟩
      rw [location] at bringing
      rw [Vault.bringUp, location] at ih ⊢
      rcases bringing.quarantine conserves proper with kept | lost
      · rcases ih (bringing.course conserves proper).proper with alsoKept | ⟨step, member, lost⟩
        · exact .inl (kept.trans alsoKept)
        · exact .inr ⟨step, .tail _ member, lost⟩
      · exact .inr ⟨_, .head _, lost⟩
    | meanwhile later attempts ih =>
      rcases ih later.proper with kept | lost
      · exact .inl ((later.carries _).trans kept)
      · exact .inr lost

/-- A world in which one database is in quarantine, and another one is in use and cannot be
moved. -/
def busy : World Files.Memory :=
  { Vault.attempted Files.engine "r" Vault.inUse with
    disk.refusals := [{
      operation := .move (Layout.mk "r").databasePath (Layout.mk "r").quarantinePath
      reason := "Device or resource busy"
      code := 16 }] }

/-- The quarantine is lost for nothing, with a database in its place, when the operating system
refuses to move that one. -/
theorem quarantineKept_files :
    let last := Vault.attempted Files.engine "r" busy
    Attempts Files.engine Files.essence "r" busy [(busy, last.disk)] last ∧ busy.disk.Proper ∧
      (Carries Files.essence (Layout.mk "r").quarantinePath (Layout.mk "r").quarantinePath
          busy.disk last.disk ∨
        ∃ step ∈ [(busy, last.disk)], Replaces Files.engine Files.essence ⟨"r"⟩ step.1 step.2 ∨
          Wastes Files.engine ⟨"r"⟩ step.1) ∧
      busy.disk.find (Layout.mk "r").quarantinePath = .ok .directory ∧
      last.disk.find (Layout.mk "r").quarantinePath = .error .notFound ∧
      last.disk.find (Layout.mk "r").databasePath = .ok .directory := by
  intro last
  have proper : busy.disk.Proper := by decide +kernel
  have attempts := Attempts.once Files.engine Files.essence "r" busy
  exact ⟨attempts, proper,
    (quarantineKept Files.conserves_engine ⟨"r"⟩).attempts _ _ _ proper attempts,
    by rfl, by rfl, by rfl⟩

/-- An engine that neither opens nor repairs anything. -/
def broken : Engine Unit Unit where
  supportsMemory := false
  openAt _ _ world := (.error ⟨.io, "no device"⟩, world)
  repair _ world := (⟨.error ⟨.io, "no device"⟩, []⟩, world)
  close _ world := world
  backend _ := Table.backendAt (fun _ => ∅) fun _ world => world

/-- An engine that does nothing takes nothing away. -/
theorem conserves_broken (view : FileContent → β) : broken.Conserves view where
  openAt _ _ _ proper := .refl proper
  repair _ _ proper := .refl proper
  metadata _ opens := nomatch opens
  close _ _ proper := .refl proper

/-- A world in which a database has been moved to the quarantine and no other one could be
opened. -/
def quarantined : World Unit :=
  Vault.attempted broken "r" { disk := Vault.inUse.disk, engine := () }

theorem not_tears_quarantined : ¬ (Layout.mk "r").Tears quarantined.disk := by
  rintro ⟨refusal, refuses, _⟩
  have nothing : quarantined.disk.refusal?
      (.removeDirectory (Layout.mk "r").quarantinePath) = none := by rfl
  cases nothing.symm.trans refuses

/-- If a vault fails to open once more after its database has been moved to the quarantine, the
database is gone, and nothing has taken its place, although every removal is done as a whole or not
at all. -/
theorem dropped_by_second_failure :
    (¬ ∀ (layout : Layout) disk error, disk.Proper → ¬ layout.Tears disk →
      (layout.moveAside disk).1 = .error error → (layout.moveAside disk).2 = disk) ∧
    ¬ ∀ engine : Engine Unit Unit, engine.Conserves id →
      ∀ layout world steps last, world.disk.Proper →
        Attempts engine id layout.root world steps last →
          (∀ step ∈ steps, ¬ layout.Tears (engine.tried layout.location step.1).disk) →
            Carries id layout.quarantinePath layout.quarantinePath world.disk last.disk ∨
              ∃ step ∈ steps, Replaces engine id layout step.1 step.2 := by
  have proper : quarantined.disk.Proper := by decide +kernel
  have before : quarantined.disk.find (Layout.mk "r").quarantinePath = .ok .directory := by rfl
  constructor
  · intro claim
    have same := claim ⟨"r"⟩ quarantined.disk .notFound proper not_tears_quarantined (by rfl)
    have cleared : ((Layout.mk "r").moveAside quarantined.disk).2.find
        (Layout.mk "r").quarantinePath = .error .notFound := by rfl
    rw [same, before] at cleared
    cases cleared
  · intro claim
    have after : (Vault.attempted broken "r" quarantined).disk.find
        (Layout.mk "r").quarantinePath = .error .notFound := by rfl
    have nothing {node : Node} (found : (Vault.attempted broken "r" quarantined).disk.find
        ((Layout.mk "r").quarantinePath ++ []) = .ok node) : False := by
      rw [List.append_nil, after] at found
      cases found
    have whole : ∀ step ∈ [(quarantined, (Vault.attempted broken "r" quarantined).disk)],
        ¬ (Layout.mk "r").Tears (broken.tried (Layout.mk "r").location step.1).disk := by
      intro step member
      obtain rfl := List.mem_singleton.1 member
      exact not_tears_quarantined
    rcases claim broken (conserves_broken id) ⟨"r"⟩ _ _ _ proper
      (Attempts.once broken id "r" quarantined) whole with carried | ⟨_, member, replaces⟩
    · exact nothing (carried.node (by rwa [List.append_nil]))
    · obtain rfl := List.mem_singleton.1 member
      obtain ⟨node, found⟩ := replaces.found
      exact nothing (replaces.carried.node (by rwa [List.append_nil]))

end Recovery

end ObjectVault
