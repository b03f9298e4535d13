import ObjectVault.Engine.Scripted
import ObjectVault.Proofs.Conservation
import ObjectVault.Proofs.Quarantine

/-!
# What is in an open database

An engine provides tables if the calls of every database that it opens read and write a table, and
that table is empty when the database is opened where there is nothing (`Engine.Provides`). The
engine on files does so (`Files.provides_engine`). Faults that are scripted before an engine take
nothing from what it conserves and what it provides, as a call that is failed does not reach it.
-/

namespace ObjectVault

open Disk

variable {σ η β : Type}

/-- Whether an open database is a table, which `held` tells, and there is nothing in a database that
is opened where there is nothing. -/
structure Engine.Provides (engine : Engine σ η) (held : η → World σ → Table) : Prop where
  empty : ∀ {path options handle} {world opened : World σ}, world.disk.Proper →
    (∀ node, world.disk.find (.ofText path) ≠ .ok node) →
      engine.openAt (.directory path) options world = (.ok handle, opened) →
        held handle opened = ∅
  keeps : ∀ {location options handle exchanges} {world opened later : World σ},
    engine.openAt location options world = (.ok handle, opened) →
      (engine.backend handle).Makes opened exchanges later →
        Exchange.AllTruthful exchanges (held handle opened) ∧
          held handle later = Exchange.afterAll exchanges (held handle opened)

namespace Files

variable {disk : Disk} {options : OpenOptions} {directory : String} {number : Nat}

/-- There is no database in a directory that has just been created. -/
theorem find_of_prepareDirectory {prepared : Disk} (proper : disk.Proper)
    (absent : ∀ node, disk.find (.ofText directory) ≠ .ok node)
    (works : prepareDirectory options directory disk = .ok prepared) :
    prepared.find (.ofText (databaseFile directory)) ≠ .ok (.file number) := by
  have path : Path.ofText (databaseFile directory) = .ofText directory ++ [databaseFilename] :=
    Path.ofText_joinPath directory (by decide) (by decide)
  have below : Path.ofText directory ≠ [] := by
    intro top
    rw [top] at absent
    exact absent .directory rfl
  have alsoProper := (later_prepareDirectory proper works).proper
  rw [path]
  intro found
  rw [alsoProper.find_eq_ok_iff (by simp)] at found
  have before : disk.nodes.get? (.ofText directory ++ [databaseFilename]) =
      some (.file number) := by
    simp only [prepareDirectory] at works
    split at works
    · split at works
      · next created =>
        cases works
        exact get?_of_createBelow created found
      · cases works
    · cases works
      exact found
  exact absent .directory ((proper.find_eq_ok_iff below).2 (proper.parents below before))

/-- What is loaded from a file has the table of the file. -/
theorem table_of_load {content : FileContent} {contents : DatabaseFile.Contents}
    (loads : load options content = .ok contents) (condition : DatabaseFile.Condition) :
    (FileContent.database ⟨contents, condition⟩).table = content.table := by
  cases content with
  | plain bytes =>
    cases bytes with
    | nil =>
      simp only [load] at loads
      split at loads
      · cases loads
        rfl
      · cases loads
    | cons byte rest => cases loads
  | database file =>
    rw [contents_of_recover loads]
    rcases file with ⟨_ | _ | _, _⟩ <;> rfl

/-- A file has the table that it had before it was taken into use. -/
theorem table_of_takeFile {taken : Disk} (takes : takeFile options number disk = (.ok (), taken)) :
    (taken.content number).table = (disk.content number).table := by
  simp only [takeFile] at takes
  split at takes
  · cases takes
  · split at takes
    · cases takes
    · next contents loads =>
      split at takes
      · cases takes
      · next table isTable =>
        cases takes
        have holds : ((disk.setContent number (.database ⟨contents, .unclean⟩)).lock number).content
            number = .database ⟨contents, .unclean⟩ := by
          simp [Disk.content, Disk.setContent, Disk.lock]
        rw [holds, table_of_load loads]

/-- A database is empty that is opened where there is nothing. -/
theorem table_of_openFile {opened : Disk} (proper : disk.Proper)
    (absent : ∀ node, disk.find (.ofText directory) ≠ .ok node)
    (opens : openFile options directory disk = (.ok number, opened)) :
    (opened.content number).table = ∅ := by
  simp only [openFile] at opens
  split at opens
  · cases opens
  · next prepared prepares =>
    have noFile (number : Nat) : prepared.find _ ≠ .ok (.file number) :=
      find_of_prepareDirectory proper absent prepares
    split at opens
    · cases opens
    · next found finds =>
      split at opens
      · cases opens
      · next takes =>
        cases opens
        rw [table_of_takeFile takes]
        simp only [findFile] at finds
        split at finds
        · next isFile => exact absurd isFile (noFile _)
        · cases finds
        · split at finds
          · split at finds
            · next creates =>
              cases finds
              simp only [createFile] at creates
              split at creates
              · cases creates
              · cases creates
                simp [Disk.content, newDatabase, FileContent.table]
            · cases finds
          · cases finds
        · cases finds

/-- An open database has the table that is put there. -/
theorem table_setTable {place : Place} {world : World Memory} (held : Held place world.disk)
    (written : Table) :
    table place (setTable place written world) = written ∧
      Held place (setTable place written world).disk := by
  cases place with
  | memory number => exact ⟨by simp [table, setTable], held⟩
  | file number =>
    obtain ⟨found, condition, holds⟩ := held number rfl
    simp only [setTable, holds, FileContent.withTable]
    refine ⟨by simp [table, Disk.content, Disk.setContent, FileContent.table], ?_⟩
    rintro _ ⟨⟩
    exact ⟨written, condition, by simp [Disk.content, Disk.setContent]⟩

/-- The calls of a database read and write the table in it. -/
theorem keeps_of_makes {database : Database} {exchanges : List Exchange}
    {world later : World Memory} (held : Held database.place world.disk)
    (makes : (engine.backend database).Makes world exchanges later) :
    Exchange.AllTruthful exchanges (table database.place world) ∧
      table database.place later = Exchange.afterAll exchanges (table database.place world) := by
  induction makes with
  | nothing => exact ⟨trivial, rfl⟩
  | get key _ ih =>
    obtain ⟨truthful, after⟩ := ih held
    exact ⟨⟨rfl, truthful⟩, after⟩
  | @put world _ _ key value durability _ ih =>
    obtain ⟨same, stillHeld⟩ := table_setTable held ((table database.place world).insert key value)
    have written : table database.place
        ((engine.backend database).put key value durability world).2 = _ := same
    have kept := ih stillHeld
    rw [written] at kept
    exact ⟨⟨trivial, kept.1⟩, kept.2⟩
  | @delete world _ _ key durability _ ih =>
    obtain ⟨same, stillHeld⟩ := table_setTable held ((table database.place world).erase key)
    have erased : table database.place
        ((engine.backend database).delete key durability world).2 = _ := same
    have kept := ih stillHeld
    rw [erased] at kept
    exact ⟨⟨trivial, kept.1⟩, kept.2⟩
  | scan _ ih =>
    obtain ⟨truthful, after⟩ := ih held
    exact ⟨⟨⟨List.prefix_rfl, fun _ => rfl⟩, truthful⟩, after⟩

/-- The engine on files provides the table of the file in which a database is. -/
theorem provides_engine : engine.Provides fun database => table database.place where
  empty := by
    intro path options database world opened proper absent opens
    change openAt (.directory path) options world = _ at opens
    simp only [openAt] at opens
    split at opens
    · next number works =>
      cases opens
      exact table_of_openFile proper absent (Prod.ext works rfl)
    · cases opens
  keeps opens makes := keeps_of_makes (held_openAt opens) makes

end Files

namespace Scripted

variable {α : Type} {engine : Engine σ η} {view : FileContent → β}

/-- What becomes of a call that the rules may fail: it fails without reaching the engine behind, or
it is left to that engine. -/
inductive Checking (failed : Failure → α) (request : World σ → α × World σ)
    (world : World (State σ)) : α → World (State σ) → Prop where
  | stopped {failure later} (same : innerWorld later = innerWorld world) :
      Checking failed request world (failed failure) later
  | passed {later} (leads : innerWorld later = (request (innerWorld world)).2) :
      Checking failed request world (request (innerWorld world)).1 later

/-- A call that is checked fails as the rules say, or reaches the engine. -/
theorem check_conduct (call : CallKind) (key : Bytes) (failed : Failure → α)
    (request : World σ → α × World σ) (world : World (State σ)) :
    Checking failed request world (check call key failed request world).1
      (check call key failed request world).2 := by
  simp only [check]
  cases (consult call key world.engine.rules).1 with
  | none => exact .passed rfl
  | some failure => exact .stopped rfl

/-- Whether some of the exchanges with a database are those that reach the engine behind, and the
others change nothing in the table. -/
structure Passes (backend : Backend (World σ)) (world later : World (State σ))
    (exchanges passed : List Exchange) : Prop where
  among : ∀ exchange ∈ passed, exchange ∈ exchanges
  makes : backend.Makes (innerWorld world) passed (innerWorld later)
  effect : ∀ table, Exchange.afterAll passed table = Exchange.afterAll exchanges table
  truthful : ∀ table, Exchange.AllTruthful passed table → Exchange.AllTruthful exchanges table

namespace Passes

variable {backend : Backend (World σ)} {world middle later : World (State σ)}
  {exchange : Exchange} {exchanges passed : List Exchange}

/-- A call that fails does not reach the engine. -/
theorem stopped (fails : ∀ table, exchange.after table = table ∧ exchange.Truthful table)
    (same : innerWorld middle = innerWorld world)
    (passes : Passes backend middle later exchanges passed) :
    Passes backend world later (exchange :: exchanges) passed where
  among other member := .tail _ (passes.among other member)
  makes := same ▸ passes.makes
  effect table := by rw [passes.effect, Exchange.afterAll, (fails table).1]
  truthful table isTrue := by
    refine ⟨(fails table).2, ?_⟩
    rw [(fails table).1]
    exact passes.truthful table isTrue

/-- A call that does not fail reaches the engine. -/
theorem cons (makes : backend.Makes (innerWorld world) (exchange :: passed) (innerWorld later))
    (passes : Passes backend middle later exchanges passed) :
    Passes backend world later (exchange :: exchanges) (exchange :: passed) where
  among other member := by
    rcases List.mem_cons.1 member with rfl | member
    · exact .head _
    · exact .tail _ (passes.among other member)
  makes := makes
  effect table := passes.effect _
  truthful table isTrue := ⟨isTrue.1, passes.truthful _ isTrue.2⟩

end Passes

/-- Whatever is done to a database behind scripted faults, some of it reaches the engine. -/
theorem passes_of_makes {backend : Backend (World σ)} {exchanges : List Exchange}
    {world later : World (State σ)} (makes : (faulty backend).Makes world exchanges later) :
    ∃ passed, Passes backend world later exchanges passed := by
  induction makes with
  | nothing => exact ⟨[], by simp, .nothing, fun _ => rfl, fun _ => id⟩
  | @get world rest later key _ ih =>
    obtain ⟨passed, passes⟩ := ih
    have checking := check_conduct .get key (Failure.reply · .get) (backend.get key) world
    simp only [faulty] at passes ⊢
    generalize (check .get key _ _ world).1 = reply, (check .get key _ _ world).2 = middle
      at checking passes ⊢
    cases checking with
    | @stopped failure _ same =>
      exact ⟨passed, passes.stopped (fun _ => by cases failure <;> exact ⟨rfl, trivial⟩) same⟩
    | passed leads => exact ⟨_, passes.cons (.get key (leads ▸ passes.makes))⟩
  | @put world rest later key value durability _ ih =>
    obtain ⟨passed, passes⟩ := ih
    have checking := check_conduct .put key (Failure.reply · .put)
      (backend.put key value durability) world
    simp only [faulty] at passes ⊢
    generalize (check .put key _ _ world).1 = reply, (check .put key _ _ world).2 = middle
      at checking passes ⊢
    cases checking with
    | @stopped failure _ same =>
      exact ⟨passed, passes.stopped (fun _ => by cases failure <;> exact ⟨rfl, trivial⟩) same⟩
    | passed leads =>
      exact ⟨_, passes.cons (.put key value durability (leads ▸ passes.makes))⟩
  | @delete world rest later key durability _ ih =>
    obtain ⟨passed, passes⟩ := ih
    have checking := check_conduct .delete key (Failure.reply · .delete)
      (backend.delete key durability) world
    simp only [faulty] at passes ⊢
    generalize (check .delete key _ _ world).1 = reply, (check .delete key _ _ world).2 = middle
      at checking passes ⊢
    cases checking with
    | @stopped failure _ same =>
      exact ⟨passed, passes.stopped (fun _ => by cases failure <;> exact ⟨rfl, trivial⟩) same⟩
    | passed leads => exact ⟨_, passes.cons (.delete key durability (leads ▸ passes.makes))⟩
  | @scan world rest later _ ih =>
    obtain ⟨passed, passes⟩ := ih
    have checking := check_conduct .scan [] (fun failure => ⟨[], failure.reply .scan⟩)
      backend.scan world
    simp only [faulty] at passes ⊢
    generalize (check .scan [] _ _ world).1 = seen, (check .scan [] _ _ world).2 = middle
      at checking passes ⊢
    cases checking with
    | @stopped failure _ same =>
      refine ⟨passed, passes.stopped (fun _ => ⟨rfl, List.nil_prefix, fun ends => ?_⟩) same⟩
      cases failure <;> cases ends
    | passed leads => exact ⟨_, passes.cons (.scan (leads ▸ passes.makes))⟩

variable {location : Location} {options : OpenOptions} {world opened : World (State σ)}
  {handle : η}

/-- A database that is opened behind scripted faults is opened by the engine. -/
theorem openAt_eq_ok (opens : openAt engine location options world = (.ok handle, opened)) :
    engine.openAt location options (innerWorld world) = (.ok handle, innerWorld opened) := by
  simp only [openAt] at opens
  split at opens
  · injection opens with answers leads
    subst leads
    exact Prod.ext answers rfl
  · cases opens

/-- Faults take nothing from what an engine conserves. -/
theorem conserves_scripted (conserves : engine.Conserves view) (supportsMemory : Bool)
    (script : RepairScript) : (scripted engine supportsMemory script).Conserves view where
  openAt location options world proper := by
    change Later view world.disk (openAt engine location options world).2.disk
    simp only [openAt]
    split
    · exact conserves.openAt location options (innerWorld world) proper
    · exact .refl proper
  repair location world proper := by
    cases script with
    | delegate => exact conserves.repair location (innerWorld world) proper
    | succeed => exact .refl proper
    | fail => exact .refl proper
  metadata proper opens makes harmless := by
    obtain ⟨passed, passes⟩ := passes_of_makes makes
    exact conserves.metadata proper (openAt_eq_ok opens) passes.makes fun exchange member =>
      harmless exchange (passes.among exchange member)
  close handle world proper := conserves.close handle (innerWorld world) proper

/-- Faults take nothing from what an engine provides. -/
theorem provides_scripted {held : η → World σ → Table} (provides : engine.Provides held)
    (supportsMemory : Bool) (script : RepairScript) :
    (scripted engine supportsMemory script).Provides fun handle world =>
      held handle (innerWorld world) where
  empty proper absent opens := provides.empty proper absent (openAt_eq_ok opens)
  keeps opens makes := by
    obtain ⟨passed, passes⟩ := passes_of_makes makes
    obtain ⟨truthful, after⟩ := provides.keeps (openAt_eq_ok opens) passes.makes
    exact ⟨passes.truthful _ truthful, by rw [after, passes.effect]⟩

end Scripted

end ObjectVault
