import ObjectVault.Proofs.Provision

/-!
# Databases at rest

What one user of a database leaves for the next is in it when it is opened again, if the engine
keeps it (`Engine.Keeping`): where there is nothing yet an empty database is opened, its calls work,
and once it is closed it opens with the table that it had.

The engine on files does so (`Files.keeping`). Between two users its database is a clean file that
nobody holds, or there is nothing yet where it is to be (`Files.Kept`). From either it opens at the
first attempt (`Files.openAt_of_kept`). It is in use then, its calls work on the table in it
(`Files.Holds.makes`), and it is at rest again once it is closed (`Files.Holds.close`).
-/

namespace ObjectVault

/-- Whether a directory can be made the root of a vault, or is one in which there is nothing yet. -/
structure Layout.Vacant (layout : Layout) (disk : Disk) : Prop where
  proper : disk.Proper
  /-- No file stands where the root or a directory above it is to be. -/
  free : ∀ front, front ≠ [] → front <+: Path.ofText layout.root → ∀ number,
    disk.nodes.get? front ≠ some (.file number)
  empty : ∀ names, names ≠ [] → disk.nodes.get? (Path.ofText layout.root ++ names) = none
  /-- Only files that there are can be held open. -/
  locked : ∀ number ∈ disk.locked, number < disk.nextFile

/-- An engine that keeps the database of a vault from one user to the next. -/
structure Engine.Keeping {σ η : Type} (engine : Engine σ η) (layout : Layout) where
  /-- Whether nobody uses the database in a world, and which table is in it. -/
  Rests : Table → World σ → Prop
  /-- Whether the database is open in a world, and which table is in it. -/
  InUse : η → Table → World σ → Prop
  vacant : ∀ {world}, layout.Vacant world.disk → Rests ∅ world
  opens : ∀ {table world}, Rests table world → ∃ handle opened,
    engine.openAt layout.location {} world = (.ok handle, opened) ∧ InUse handle table opened
  /-- No call of the database fails, and each is truthful about the table and writes to it. -/
  works : ∀ {handle table world exchanges later}, InUse handle table world →
    (engine.backend handle).Makes world exchanges later →
      Exchange.AllTruthful exchanges table ∧ (∀ exchange ∈ exchanges, exchange.Succeeds) ∧
        InUse handle (Exchange.afterAll exchanges table) later
  closes : ∀ {handle table world}, InUse handle table world →
    Rests table (engine.close handle world)

namespace Disk

variable {disk : Disk} {here path : Path} {names : List String}

/-- Nothing is created along names that are those of directories. -/
theorem createBelow_of_directories
    (directories : ∀ front, front ≠ [] → front <+: names →
      disk.nodes.get? (here ++ front) = some .directory) :
    disk.createBelow here names = .ok disk := by
  induction names generalizing here with
  | nil => rfl
  | cons name rest ih =>
    have first := directories [name] (by simp) (by simp)
    simp only [createBelow, first]
    refine ih fun front below isFront => ?_
    rw [← List.append_cons]
    exact directories (name :: front) (by simp) (List.cons_prefix_cons.2 ⟨rfl, isFront⟩)

/-- Whether directories have been created along some names, and nothing else has changed. -/
structure Creates (here : Path) (names : List String) (before after : Disk) : Prop where
  directories : ∀ front, front ≠ [] → front <+: names →
    after.nodes.get? (here ++ front) = some .directory
  elsewhere : ∀ path, (∀ front, front ≠ [] → front <+: names → path ≠ here ++ front) →
    after.nodes.get? path = before.nodes.get? path
  others : after = { before with nodes := after.nodes }

/-- Directories are created along names of which none is that of a file. -/
theorem createBelow_of_free
    (free : ∀ front, front ≠ [] → front <+: names → ∀ number,
      disk.nodes.get? (here ++ front) ≠ some (.file number)) :
    ∃ created, disk.createBelow here names = .ok created ∧ Creates here names disk created := by
  induction names generalizing disk here with
  | nil =>
    refine ⟨disk, rfl, fun front below isFront => ?_, fun _ _ => rfl, rfl⟩
    exact absurd (List.prefix_nil.1 isFront) below
  | cons name rest ih =>
    have isHead : [name] <+: name :: rest := by simp
    have isLonger {front : List String} (isFront : front <+: rest) :
        name :: front <+: name :: rest := List.cons_prefix_cons.2 ⟨rfl, isFront⟩
    -- One step creates the first directory, if it is not there, and the others are created below.
    obtain ⟨first, steps, isThere, elsewhere, others⟩ : ∃ first : Disk,
        disk.createBelow here (name :: rest) = first.createBelow (here ++ [name]) rest ∧
          first.nodes.get? (here ++ [name]) = some .directory ∧
          (∀ path, path ≠ here ++ [name] → first.nodes.get? path = disk.nodes.get? path) ∧
          first = { disk with nodes := first.nodes } := by
      simp only [createBelow]
      split
      · next found => exact ⟨disk, rfl, found, fun _ _ => rfl, rfl⟩
      · next found => exact absurd found (free [name] (by simp) isHead _)
      · exact ⟨_, rfl, SortedMap.get?_insert_self _ _ _,
          fun path differs => SortedMap.get?_insert_of_ne _ _ differs, rfl⟩
    have below {front : List String} (inside : front ≠ []) :
        here ++ [name] ++ front ≠ here ++ [name] := by
      simpa using inside
    have stillFree (front : List String) (inside : front ≠ []) (isFront : front <+: rest)
        (number : Nat) : first.nodes.get? (here ++ [name] ++ front) ≠ some (.file number) := by
      rw [elsewhere _ (below inside), ← List.append_cons]
      exact free (name :: front) (by simp) (isLonger isFront) number
    obtain ⟨created, works, creates⟩ := ih stillFree
    refine ⟨created, by rw [steps, works], ?_, fun path differs => ?_, ?_⟩
    · intro front inside isFront
      cases front with
      | nil => exact absurd rfl inside
      | cons head front =>
        obtain ⟨rfl, inRest⟩ := List.cons_prefix_cons.1 isFront
        rw [List.append_cons]
        by_cases last : front = []
        · subst last
          rw [List.append_nil, creates.elsewhere _ fun _ inside _ => (below inside).symm, isThere]
        · exact creates.directories front last inRest
    · rw [creates.elsewhere path fun front _ isFront => ?_]
      · exact elsewhere path (differs [name] (by simp) isHead)
      · rw [← List.append_cons]
        exact differs (name :: front) (by simp) (isLonger isFront)
    · rw [creates.others, others]

end Disk

open Disk

namespace Layout

/-- The path of the database file. -/
def filePath (layout : Layout) : Path := layout.databasePath ++ [databaseFilename]

theorem ofText_databaseFile (layout : Layout) :
    Path.ofText (databaseFile layout.database) = layout.filePath :=
  Path.ofText_joinPath layout.database (by decide) (by decide)

end Layout

namespace Files

variable {layout : Layout} {number : Nat} {table : Table} {condition : DatabaseFile.Condition}
  {disk : Disk}

/-- Whether a file is the database, and which table is in it. -/
structure Holds (layout : Layout) (number : Nat) (table : Table)
    (condition : DatabaseFile.Condition) (disk : Disk) : Prop where
  proper : disk.Proper
  node : disk.nodes.get? layout.filePath = some (.file number)
  content : disk.content number = .database ⟨.objects table, condition⟩

/-- Whether there is a database that nobody uses. Where there is nothing yet, it is empty. -/
inductive Kept (layout : Layout) : Table → Disk → Prop where
  | vacant {disk : Disk} (vacant : layout.Vacant disk) : Kept layout ∅ disk
  | resting {number : Nat} {table : Table} {disk : Disk}
      (holds : Holds layout number table .clean disk) (unlocked : disk.isLocked number = false) :
      Kept layout table disk

/-- The file is the database still when it has been written to. -/
theorem Holds.setContent (holds : Holds layout number table condition disk) (written : Table)
    (next : DatabaseFile.Condition) :
    Holds layout number written next
      (disk.setContent number (.database ⟨.objects written, next⟩)) where
  proper := ⟨holds.proper.parents, holds.proper.numbers⟩
  node := holds.node
  content := by simp [Disk.content, Disk.setContent]

/-- It does not matter to what is in the files who holds them open. -/
theorem Holds.withLocked (holds : Holds layout number table condition disk) (locked : List Nat) :
    Holds layout number table condition { disk with locked } where
  proper := ⟨holds.proper.parents, holds.proper.numbers⟩
  node := holds.node
  content := holds.content

/-- A clean database that nobody holds is taken into use. -/
theorem Holds.takeFile (holds : Holds layout number table .clean disk)
    (unlocked : disk.isLocked number = false) :
    ∃ taken, takeFile {} number disk = (.ok (), taken) ∧
      Holds layout number table .unclean taken := by
  have takes : Files.takeFile {} number disk =
      (.ok (), (disk.setContent number (.database ⟨.objects table, .unclean⟩)).lock number) := by
    simp [Files.takeFile, unlocked, holds.content, load, recover, objectTable]
  exact ⟨_, takes, (holds.setContent table .unclean).withLocked _⟩

/-- A database that is there is found. -/
theorem Holds.findFile (holds : Holds layout number table condition disk) :
    prepareDirectory {} layout.database disk = .ok disk ∧
      findFile {} layout.database disk = (.ok number, disk) := by
  have above (front : Path) (below : front ≠ []) (isFront : front <+: layout.databasePath) :
      disk.nodes.get? ([] ++ front) = some .directory := by
    obtain ⟨more, same⟩ := isFront.trans (List.prefix_append _ [databaseFilename])
    have node := holds.node
    rw [Layout.filePath, ← same] at node
    refine holds.proper.above below ?_ node
    rintro rfl
    rw [List.append_nil] at same
    exact not_append_prefix_self layout.databasePath databaseFilename (same ▸ isFront)
  have prepares : disk.createDirectories (.ofText layout.database) = .ok disk :=
    createBelow_of_directories above
  have finds : disk.find layout.filePath = .ok (.file number) :=
    (holds.proper.find_eq_ok_iff (by simp [Layout.filePath])).2 holds.node
  constructor
  · simp [prepareDirectory, prepares]
  · simp [Files.findFile, layout.ofText_databaseFile, finds]

/-- Where there is nothing, an empty database is created. -/
theorem findFile_of_vacant (vacant : layout.Vacant disk) :
    ∃ prepared number found,
      prepareDirectory {} layout.database disk = .ok prepared ∧
      findFile {} layout.database prepared = (.ok number, found) ∧
      Holds layout number ∅ .clean found ∧ found.isLocked number = false := by
  have way : layout.databasePath = .ofText layout.root ++ ["database"] := layout.databasePath_eq
  have free (front : Path) (below : front ≠ []) (isFront : front <+: layout.databasePath)
      (number : Nat) : disk.nodes.get? ([] ++ front) ≠ some (.file number) := by
    rw [way, List.prefix_concat_iff] at isFront
    rcases isFront with rfl | isFront
    · rw [List.nil_append, vacant.empty _ (by simp)]
      simp
    · exact vacant.free front below isFront number
  obtain ⟨prepared, works, creates⟩ := createBelow_of_free free
  have early : Later id disk prepared :=
    later_createBelow vacant.proper (fun top => absurd rfl top) works
  have inside : prepared.find layout.databasePath = .ok .directory :=
    (early.proper.find_eq_ok_iff (by simp [way])).2
      (creates.directories layout.databasePath (by simp [way]) List.prefix_rfl)
  have nothing : prepared.nodes.get? layout.filePath = none := by
    rw [creates.elsewhere layout.filePath fun front _ isFront same => ?_]
    · rw [Layout.filePath, way, List.append_assoc]
      exact vacant.empty _ (by simp)
    · rw [List.nil_append] at same
      rw [← same] at isFront
      exact not_append_prefix_self _ _ isFront
  have notFound : prepared.find layout.filePath = .error .notFound :=
    find_of_vacant inside nothing
  have parent : layout.filePath.parent = layout.databasePath := List.dropLast_concat
  have makes : prepared.createFile layout.filePath newDatabase =
      .ok (prepared.nextFile,
        { prepared with
          nodes := prepared.nodes.insert layout.filePath (.file prepared.nextFile)
          files := prepared.files.insert prepared.nextFile newDatabase
          nextFile := prepared.nextFile + 1 }) := by
    simp [createFile, parent, requireDirectory, inside]
  have late : Later id prepared _ := later_createFile early.proper notFound makes
  refine ⟨prepared, prepared.nextFile, _, ?_, ?_, ⟨late.proper, ?_, ?_⟩, ?_⟩
  · simp only [prepareDirectory, if_true, createDirectories]
    rw [← Layout.databasePath, works]
  · simp only [Files.findFile, layout.ofText_databaseFile, notFound, if_true, makes]
  · exact SortedMap.get?_insert_self _ _ _
  · simp [Disk.content, newDatabase]
  · -- Nobody holds a file with the number of the next one.
    rw [creates.others]
    simp only [isLocked, List.contains_eq_mem, decide_eq_false_iff_not]
    exact fun held => Nat.lt_irrefl _ (vacant.locked _ held)

/-- A database that nobody uses opens at the first attempt. -/
theorem openAt_of_kept {world : World Memory} (kept : Kept layout table world.disk) :
    ∃ number opened,
      openAt layout.location {} world =
        (.ok ⟨databaseFile layout.database, .file number⟩, opened) ∧
      Holds layout number table .unclean opened.disk := by
  obtain ⟨prepared, number, found, prepares, finds, holds, unlocked⟩ : ∃ prepared number found,
      prepareDirectory {} layout.database world.disk = .ok prepared ∧
      findFile {} layout.database prepared = (.ok number, found) ∧
      Holds layout number table .clean found ∧ found.isLocked number = false := by
    cases kept with
    | vacant vacant => exact findFile_of_vacant vacant
    | resting holds unlocked =>
      exact ⟨_, _, _, holds.findFile.1, holds.findFile.2, holds, unlocked⟩
  obtain ⟨taken, takes, inUse⟩ := holds.takeFile unlocked
  refine ⟨number, { world with disk := taken }, ?_, inUse⟩
  simp [openAt, Layout.location, openFile, prepares, finds, takes]

/-- The table of a database in use is the one in its file. -/
theorem Holds.table_eq {world : World Memory}
    (holds : Holds layout number table condition world.disk) :
    Files.table (.file number) world = table := by
  simp [Files.table, holds.content, FileContent.table]

/-- A database in use has the table that is put there. -/
theorem Holds.setTable {world : World Memory}
    (holds : Holds layout number table condition world.disk) (written : Table) :
    Holds layout number written condition (setTable (.file number) written world).disk := by
  simp only [Files.setTable, holds.content, FileContent.withTable]
  exact holds.setContent written condition

/-- The calls of a database in use work, and it has the table then that they leave. -/
theorem Holds.makes {path : String} {world later : World Memory} {exchanges : List Exchange}
    (holds : Holds layout number table condition world.disk)
    (makes : (engine.backend ⟨path, .file number⟩).Makes world exchanges later) :
    Exchange.AllTruthful exchanges table ∧ (∀ exchange ∈ exchanges, exchange.Succeeds) ∧
      Holds layout number (Exchange.afterAll exchanges table) condition later.disk := by
  induction makes generalizing table with
  | nothing => exact ⟨trivial, by simp, holds⟩
  | get key _ ih =>
    obtain ⟨truthful, succeed, after⟩ := ih holds
    obtain rfl := holds.table_eq
    exact ⟨⟨rfl, truthful⟩, List.forall_mem_cons.2 ⟨⟨_, rfl⟩, succeed⟩, after⟩
  | put key value durability _ ih =>
    obtain rfl := holds.table_eq
    obtain ⟨truthful, succeed, after⟩ := ih (holds.setTable _)
    exact ⟨⟨trivial, truthful⟩, List.forall_mem_cons.2 ⟨rfl, succeed⟩, after⟩
  | delete key durability _ ih =>
    obtain rfl := holds.table_eq
    obtain ⟨truthful, succeed, after⟩ := ih (holds.setTable _)
    exact ⟨⟨trivial, truthful⟩, List.forall_mem_cons.2 ⟨rfl, succeed⟩, after⟩
  | scan _ ih =>
    obtain ⟨truthful, succeed, after⟩ := ih holds
    obtain rfl := holds.table_eq
    exact ⟨⟨⟨List.prefix_rfl, fun _ => rfl⟩, truthful⟩, List.forall_mem_cons.2 ⟨rfl, succeed⟩,
      after⟩

/-- A database in use is clean once it is closed, and still in the same file. -/
theorem Holds.closed {world : World Memory}
    (holds : Holds layout number table condition world.disk) (path : String) :
    Holds layout number table .clean (engine.close ⟨path, .file number⟩ world).disk := by
  have closed : (engine.close ⟨path, .file number⟩ world).disk =
      (world.disk.setContent number (.database ⟨.objects table, .clean⟩)).unlock number := by
    simp [engine, Files.close, holds.content, FileContent.withCondition]
  rw [closed]
  exact (holds.setContent table .clean).withLocked _

/-- A database in use is kept once it is closed. -/
theorem Holds.close {world : World Memory}
    (holds : Holds layout number table condition world.disk) (path : String) :
    Kept layout table (engine.close ⟨path, .file number⟩ world).disk := by
  refine .resting (holds.closed path) ?_
  simp [engine, Files.close, isLocked, unlock]

/-- The engine on files keeps a database in its file. -/
def keeping (layout : Layout) : engine.Keeping layout where
  Rests table world := Kept layout table world.disk
  InUse database table world := ∃ number,
    database = ⟨databaseFile layout.database, .file number⟩ ∧
      Holds layout number table .unclean world.disk
  vacant := .vacant
  opens kept := by
    obtain ⟨number, opened, opens, holds⟩ := openAt_of_kept kept
    exact ⟨_, opened, opens, number, rfl, holds⟩
  works := by
    rintro _ table world exchanges later ⟨number, rfl, holds⟩ makes
    obtain ⟨truthful, succeed, after⟩ := holds.makes makes
    exact ⟨truthful, succeed, number, rfl, after⟩
  closes := by
    rintro _ table world ⟨number, rfl, holds⟩
    exact holds.close _

end Files

end ObjectVault
