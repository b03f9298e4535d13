import ObjectVault.Proofs.Provision
import ObjectVault.Proofs.Recovery

/-!
# What a recreated database has

A vault reports how its database was brought up by the stage that opened it, whether or not the
database was moved aside before the last stage. Where it was, or there was none, the report that the
database was recreated is the truth (`Recovery.Recreation`): what is open is new, and what was in
its place is in quarantine as it was. But where a file stands in the place of the quarantine, or the
operating system refuses what is to be done, the database is not moved (`Layout.Hindered`). What the
last stage opens is then the database that was there before, and nevertheless it is said to be
recreated (`Vault.kept_by_blocked_quarantine`).
-/

namespace ObjectVault

open Disk

variable {σ η β : Type} {engine : Engine σ η} {view : FileContent → β}
  {held : η → World σ → Table}

namespace Exchange

/-- Reading and writing metadata changes nothing under the keys of other entries. -/
theorem get?_afterAll_of_isMetadata {exchanges : List Exchange} {table : Table} {key : Bytes}
    (other : ∀ item : MetadataItem, key ≠ item.key)
    (harmless : ∀ exchange ∈ exchanges, exchange.IsMetadata) :
    (afterAll exchanges table).get? key = table.get? key := by
  induction exchanges generalizing table with
  | nil => rfl
  | cons exchange rest ih =>
    rw [afterAll, ih fun exchange member => harmless exchange (.tail _ member)]
    have head := harmless exchange (.head _)
    cases exchange with
    | put written value durability reply =>
      obtain ⟨item, rfl⟩ := head
      cases reply with
      | done => exact SortedMap.get?_insert_of_ne _ _ (other item)
      | failed => rfl
      | panicked => rfl
    | delete => exact head.elim
    | get => rfl
    | scan => rfl

end Exchange

/-- There is nothing in the place of the database once it has been moved aside, or if there was
none. -/
theorem Layout.absent_moveAside {layout : Layout} {disk : Disk} (proper : disk.Proper)
    (free : (layout.moveAside disk).1 = .ok () ∨ ∀ node, disk.find layout.databasePath ≠ .ok node)
    (node : Node) : (layout.moveAside disk).2.find layout.databasePath ≠ .ok node := by
  have below := layout.apart.source_ne_nil
  rw [Ne, (layout.proper_moveAside proper).find_eq_ok_iff below]
  cases moves : (layout.moveAside disk).1 with
  | ok =>
    have left := (layout.relocates_moveAside proper moves).left []
    rw [List.append_nil] at left
    simp [left]
  | error error =>
    have absent := free.resolve_left (by simp [moves])
    rw [(layout.outside_moveAside proper moves).2 _ layout.apart.notAbove,
      ← proper.find_eq_ok_iff below]
    exact absent node

namespace Recovery

/-- What there is once a database has been recreated: a new one, and in quarantine what was in its
place before. -/
structure Recreation (held : η → World σ → Table) (view : FileContent → β) (layout : Layout)
    (left : Disk) (opened : Opened η) (later : World σ) : Prop where
  isNew : opened.isNew = true
  /-- There is no object and no internal blob in it, however its key would be spelt. -/
  blank : ∀ key category number, BlobKey.decode? key = some (category, number) →
    (held opened.handle later).get? key = none
  moved : ∀ node, left.find layout.databasePath = .ok node →
    Relocates layout.databasePath layout.quarantinePath left (layout.moveAside left).2
  carried : Carries view layout.databasePath layout.quarantinePath left later.disk

/-- A database that is open was opened by a stage and has its metadata. -/
theorem BringingUp.of_done {root : Location} {world later : World σ} {errors : List BackendError}
    {ending : Ending (Opened η)} {opened : Opened η}
    (bringing : BringingUp engine root world errors ending later) (ends : ending = .done opened) :
    ∃ middle exchanges, Staging engine root.layout? root.database world errors
        (.done (opened.handle, opened.recovery)) middle ∧
      (engine.backend opened.handle).Makes middle exchanges later ∧
      Metadata.Initializing exchanges (.done opened.isNew) := by
  cases bringing with
  | unsupported => cases ends
  | unopened => cases ends
  | opened staging makes initializing =>
    cases ends
    exact ⟨_, _, staging, makes, initializing⟩
  | closed _ _ _ failing =>
    obtain ⟨isNew, done, _⟩ := Ending.map_eq_done.1 ends
    exact absurd done (failing isNew)

/-- An empty database is found to be new. -/
theorem isNew_of_empty {exchanges : List Exchange} {isNew : Bool}
    (truthful : Exchange.AllTruthful exchanges ∅)
    (initializing : Metadata.Initializing exchanges (.done isNew)) : isNew = true := by
  generalize ends : Ending.done isNew = ending at initializing
  cases initializing with
  | unknown => cases ends
  | stopped => cases ends
  | already => cases truthful.1
  | @settingUp _ written _ =>
    cases written with
    | done => exact Ending.done.inj ends
    | failed => cases ends
    | panicked => cases ends

/-- What is opened in the last stage is new if there is nothing in the place of the database. -/
theorem recreation_of_free (provides : engine.Provides held) {layout : Layout}
    {left middle later : World σ} {opened : Opened η} {exchanges : List Exchange}
    (proper : left.disk.Proper)
    (free : (layout.moveAside left.disk).1 = .ok () ∨
      ∀ node, left.disk.find layout.databasePath ≠ .ok node)
    (opens : engine.openAt layout.location {} (setAside (some layout) left) =
      (.ok opened.handle, middle))
    (makes : (engine.backend opened.handle).Makes middle exchanges later)
    (initializing : Metadata.Initializing exchanges (.done opened.isNew))
    (late : Later view (layout.moveAside left.disk).2 later.disk) :
    Recreation held view layout left.disk opened later := by
  have cleared : (layout.moveAside left.disk).2.Proper := layout.proper_moveAside proper
  have empty := provides.empty cleared (Layout.absent_moveAside proper free) opens
  obtain ⟨truthful, after⟩ := provides.keeps opens makes
  rw [empty] at truthful after
  refine ⟨isNew_of_empty truthful initializing, fun key category number named => ?_, ?_, ?_⟩
  · have other (item : MetadataItem) : key ≠ item.key := by
      rintro rfl
      simp at named
    rw [after, Exchange.get?_afterAll_of_isMetadata other initializing.isMetadata]
    rfl
  · intro node found
    exact layout.relocates_moveAside proper (free.resolve_right fun absent => absent node found)
  · rcases free with moves | absent
    · exact (layout.carries_moveAside_of_ok proper moves).trans (late.carries _)
    · exact .of_absent absent

/-- What it is worth that a database is said to have been recreated, by what became of the move to
the quarantine after the first two stages. -/
structure Recreated (held : η → World σ → Table) (view : FileContent → β) (layout : Layout)
    (left : Disk) (opened : Opened η) (later : World σ) : Prop where
  /-- The database has been recreated if the old one was moved, or if there was none. -/
  recreation : (layout.moveAside left).1 = .ok () ∨
      (∀ node, left.find layout.databasePath ≠ .ok node) →
    Recreation held view layout left opened later
  /-- If the old one was not moved, it is still in its place. -/
  kept : ∀ error, (layout.moveAside left).1 = .error error →
    Carries view layout.databasePath layout.databasePath left later.disk
  /-- It is moved exactly if it is there and there is neither a file in the place of the quarantine
  nor a refusal of the operating system. -/
  moves : (layout.moveAside left).1 = .ok () ↔
    (∃ node, left.find layout.databasePath = .ok node) ∧ ¬ layout.Hindered left

end Recovery

namespace Vault

/-- If a vault says that its database was recreated, that is so, unless the database could not be
moved aside. Then it is still in its place. -/
theorem recreated_of_done (conserves : engine.Conserves view) (provides : engine.Provides held)
    {config : Config} {root : String} (location : config.location = .directory root)
    (machine : Machine (World σ)) (proper : machine.state.disk.Proper) {opened : Opened η}
    (ends : ((bringUp engine config).run machine).1 = .done opened)
    (recreated : opened.recovery = .recreated) :
    Recovery.Recreated held view ⟨root⟩
      (engine.tried (Layout.mk root).location machine.state).disk opened
      ((bringUp engine config).run machine).2.state := by
  obtain ⟨errors, bringing⟩ := Recovery.bringUp_conduct engine config.sink config.location machine
  rw [bringUp] at ends ⊢
  rw [location] at bringing ends ⊢
  generalize (Recovery.bringUp engine config.sink (.directory root)).run machine = outcome
    at bringing ends ⊢
  obtain ⟨ending, after, journal⟩ := outcome
  obtain ⟨middle, exchanges, staging, makes, initializing⟩ := bringing.of_done ends
  have course := bringing.course conserves proper
  change Recovery.Course view (some ⟨root⟩) _ _
    (engine.tried (Layout.mk root).location machine.state).disk _ at course
  change Recovery.Staging engine (some ⟨root⟩) (Layout.mk root).location _ _ _ _ at staging
  rw [recreated] at staging
  cases staging with
  | @recreated _ _ _ left _ _ fails unmended opens =>
    have tried : engine.tried (Layout.mk root).location machine.state = left := by
      rw [Engine.tried, fails, unmended]
    rw [tried] at course ⊢
    cases course with
    | kept few => simp at few
    | aside many early late =>
      change Later view ((Layout.mk root).moveAside left.disk).2 _ at late
      refine ⟨fun free => ?_, fun error unmoved => ?_, Layout.moveAside_eq_ok_iff early.proper⟩
      · exact Recovery.recreation_of_free provides early.proper free opens makes initializing late
      · exact (Layout.carries_moveAside_of_error early.proper unmoved).trans (late.carries _)

/-- A database that is in use elsewhere is moved aside, and a new one is opened. -/
theorem recreated_inUse :
    inUse.disk.Proper ∧
      ((bringUp Files.engine (.atRoot "r")).run ⟨inUse, {}⟩).1 =
        .done ⟨⟨"r/database/store.redb", .file 1⟩, .recreated, true⟩ ∧
      Recovery.Recreation (fun database : Files.Database => Files.table database.place)
        Files.essence ⟨"r"⟩
        (Files.engine.tried (Layout.mk "r").location inUse).disk
        ⟨⟨"r/database/store.redb", .file 1⟩, .recreated, true⟩
        ((bringUp Files.engine (.atRoot "r")).run ⟨inUse, {}⟩).2.state := by
  have proper : inUse.disk.Proper := by decide +kernel
  have ends : ((bringUp Files.engine (.atRoot "r")).run ⟨inUse, {}⟩).1 =
      .done ⟨⟨"r/database/store.redb", .file 1⟩, .recreated, true⟩ := by decide +kernel
  have moves : ((Layout.mk "r").moveAside
      (Files.engine.tried (Layout.mk "r").location inUse).disk).1 = .ok () := by rfl
  exact ⟨proper, ends, (recreated_of_done Files.conserves_engine Files.provides_engine rfl
    ⟨inUse, {}⟩ proper ends rfl).recreation (.inl moves)⟩

/-- A world in which a vault has been closed, a file stands in the place of the quarantine, and the
next two attempts to open a database fail. -/
def obstructed : World (Scripted.State Files.Memory) where
  disk :=
    let closed := (Files.close ⟨"r/database/store.redb", .file 0⟩ inUse).disk
    { closed with
      nodes := closed.nodes.insert (Layout.mk "r").quarantinePath (.file closed.nextFile)
      nextFile := closed.nextFile + 1 }
  engine := { inner := {}, failingOpens := 2 }

/-- A vault may say that its database was recreated when it is the old one, in its old place. -/
theorem kept_by_blocked_quarantine :
    ¬ ∀ (engine : Engine (Scripted.State Files.Memory) Files.Database)
      (held : Files.Database → World (Scripted.State Files.Memory) → Table),
      engine.Conserves Files.essence → engine.Provides held →
        ∀ (root : String) (machine : Machine (World (Scripted.State Files.Memory)))
          (opened : Opened Files.Database), machine.state.disk.Proper →
          ((bringUp engine (.atRoot root)).run machine).1 = .done opened →
            opened.recovery = .recreated →
              Recovery.Recreation held Files.essence ⟨root⟩
                (engine.tried (Layout.mk root).location machine.state).disk opened
                ((bringUp engine (.atRoot root)).run machine).2.state := by
  intro claim
  have proper : obstructed.disk.Proper := by decide +kernel
  have ends : ((bringUp (Scripted.scripted Files.engine true .succeed) (.atRoot "r")).run
      ⟨obstructed, {}⟩).1 = .done ⟨⟨"r/database/store.redb", .file 0⟩, .recreated, false⟩ := by
    decide +kernel
  have recreation := claim _ _
    (Scripted.conserves_scripted Files.conserves_engine true .succeed)
    (Scripted.provides_scripted Files.provides_engine true .succeed) "r" ⟨obstructed, {}⟩ _ proper
    ends rfl
  exact Bool.false_ne_true recreation.isNew

end Vault

end ObjectVault
