import ObjectVault.Engine
import ObjectVault.Engine.Fault

/-!
# The engine on files

A database is a file in a directory, or is in memory while it is open. The file is held open and
counts as unclean until it is closed, so an unclean file that nobody holds was left behind by a
user that stopped in the middle. Opening it strictly is refused; opening it otherwise, or an
explicit repair, brings it back with everything that was written.
-/

namespace ObjectVault.Files

/-- The databases in memory. -/
structure Memory where
  tables : SortedMap Nat Table := ∅
  next : Nat := 0

/-- Where the table of an open database is. -/
inductive Place where
  | file (number : Nat)
  | memory (number : Nat)
  deriving DecidableEq, Repr

/-- An open database. -/
structure Database where
  label : String
  place : Place
  deriving DecidableEq, Repr

/-- The database in inspection text. -/
def Database.inspect (database : Database) : String :=
  Inspect.partly "Database" [("location", Quoted.text database.label)]

/-- The name of the object table. -/
def tableName : String := "objects"

/-- The fault of a file that is no database. -/
def invalidData : EngineFault := .database (.storage (.io "invalid data"))

/-- The fault of a file whose header is lost. -/
def headerLost : EngineFault :=
  .database (.storage (.corrupted "Expected file format version <= 3, found 255"))

/-- The fault of a file whose contents are lost. -/
def rootsLost : EngineFault :=
  .database (.storage (.corrupted "Failed to repair database. All roots are corrupted"))

/-- The fault of a path that does not lead to a file. -/
def unreachable (error : FileError) : EngineFault :=
  .database (.storage (.io error.message))

/-- The fault of a file that someone holds open. -/
def inUse : EngineFault := .database .alreadyOpen

/-- A file without entries. -/
def newDatabase : FileContent := .database {}

/-- The contents of a database file that is brought into order, strictly or not. -/
def recover (strict : Bool) (file : DatabaseFile) :
    Except EngineFault DatabaseFile.Contents :=
  match file.condition with
  | .headerLost => .error headerLost
  | .clean => .ok file.contents
  | .unclean => if strict then .error (.database .repairAborted) else .ok file.contents
  | .beyondRepair => if strict then .error (.database .repairAborted) else .error rootsLost

/-- The object table of a database. -/
def objectTable : DatabaseFile.Contents → Except EngineFault Table
  | .objects table => .ok table
  | .numbers => .error (.table (.otherType tableName "u64" "u64"))
  | .multimap => .error (.table (.multimap tableName))

/-- What a file holds once it is in order, whether or not its table can be used, and the table. -/
def load (options : OpenOptions) : FileContent → Except EngineFault DatabaseFile.Contents
  | .plain [] => if options.createIfMissing then .ok (.objects ∅) else .error invalidData
  | .plain _ => .error invalidData
  | .database file => recover options.strict file

/-- Takes a file into use. A file that is brought into order but has a foreign table is left in
order. -/
def takeFile (options : OpenOptions) (number : Nat) (disk : Disk) :
    Except EngineFault Unit × Disk :=
  if disk.isLocked number then (.error inUse, disk)
  else
    match load options (disk.content number) with
    | .error fault => (.error fault, disk)
    | .ok contents =>
      match objectTable contents with
      | .error fault => (.error fault, disk.setContent number (.database ⟨contents, .clean⟩))
      | .ok _ => (.ok (), (disk.setContent number (.database ⟨contents, .unclean⟩)).lock number)

/-- Finds the database file in a directory, or creates it. -/
def findFile (options : OpenOptions) (directory : String) (disk : Disk) :
    Except EngineFault Nat × Disk :=
  let path := Path.ofText (databaseFile directory)
  match disk.find path with
  | .ok (.file number) => (.ok number, disk)
  | .ok .directory => (.error (unreachable .isADirectory), disk)
  | .error .notFound =>
    if options.createIfMissing then
      match disk.createFile path newDatabase with
      | .ok (number, created) => (.ok number, created)
      | .error error => (.error (unreachable error), disk)
    else (.error (unreachable .notFound), disk)
  | .error error => (.error (unreachable error), disk)

/-- Creates a directory for a database, if one is to be created. -/
def prepareDirectory (options : OpenOptions) (directory : String) (disk : Disk) :
    Except EngineFault Disk :=
  if options.createIfMissing then
    match disk.createDirectories (.ofText directory) with
    | .ok created => .ok created
    | .error error => .error (.io error.message)
  else .ok disk

/-- Opens the database in a directory, and answers the number of its file. -/
def openFile (options : OpenOptions) (directory : String) (disk : Disk) :
    Except EngineFault Nat × Disk :=
  match prepareDirectory options directory disk with
  | .error fault => (.error fault, disk)
  | .ok prepared =>
    match findFile options directory prepared with
    | (.error fault, found) => (.error fault, found)
    | (.ok number, found) =>
      match takeFile options number found with
      | (.error fault, taken) => (.error fault, taken)
      | (.ok (), taken) => (.ok number, taken)

/-- Opens the database at a location. A database in memory is always a new one. -/
def openAt (location : Location) (options : OpenOptions) (world : World Memory) :
    Except BackendError Database × World Memory :=
  match location with
  | .directory directory =>
    let (result, disk) := openFile options directory world.disk
    match result with
    | .ok number => (.ok ⟨databaseFile directory, .file number⟩, { world with disk })
    | .error fault => (.error fault.toBackendError, { world with disk })
  | .memory =>
    let number := world.engine.next
    (.ok ⟨Location.memoryMarker, .memory number⟩,
      { world with
        engine := {
          tables := world.engine.tables.insert number ∅
          next := number + 1 } })

/-- The line written when a part of a repair is done. -/
def progress (percent : Nat) : LogLine :=
  ⟨.warn, "Repairing database: " ++ toString percent ++ "% done"⟩

/-- Repairs a file that nobody holds. -/
def repairContent : FileContent → Except EngineFault FileContent × List LogLine
  | .plain _ => (.error invalidData, [])
  | .database file =>
    match file.condition with
    | .headerLost => (.error headerLost, [])
    | .clean => (.ok (.database file), [])
    | .unclean => (.ok (.database { file with condition := .clean }), [0, 60, 90].map progress)
    | .beyondRepair => (.error rootsLost, [0, 30].map progress)

/-- Repairs the database in a directory. -/
def repairFile (directory : String) (disk : Disk) :
    (Except EngineFault Unit × List LogLine) × Disk :=
  match disk.find (.ofText (databaseFile directory)) with
  | .ok (.file number) =>
    if disk.isLocked number then ((.error inUse, []), disk)
    else
      match repairContent (disk.content number) with
      | (.ok content, lines) => ((.ok (), lines), disk.setContent number content)
      | (.error fault, lines) => ((.error fault, lines), disk)
  | _ => ((.error (.io ("no database file at " ++ databaseFile directory)), []), disk)

/-- Repairs the database at a location. -/
def repair (location : Location) (world : World Memory) : Repair × World Memory :=
  match location with
  | .directory directory =>
    let ((result, lines), disk) := repairFile directory world.disk
    (⟨result.mapError EngineFault.toBackendError, lines⟩, { world with disk })
  | .memory => (⟨.error ⟨.unsupported, "in-memory databases cannot be repaired"⟩, []⟩, world)

/-- Closes an open database. A file is clean then; what was in memory is gone. -/
def close (database : Database) (world : World Memory) : World Memory :=
  match database.place with
  | .file number =>
    let content := (world.disk.content number).withCondition .clean
    { world with disk := (world.disk.setContent number content).unlock number }
  | .memory number =>
    { world with
      engine := { world.engine with tables := world.engine.tables.erase number } }

/-- The table of an open database. -/
def table (place : Place) (world : World Memory) : Table :=
  match place with
  | .file number => (world.disk.content number).table
  | .memory number => (world.engine.tables.get? number).getD ∅

/-- Puts another table in an open database. -/
def setTable (place : Place) (table : Table) (world : World Memory) : World Memory :=
  match place with
  | .file number =>
    { world with
      disk := world.disk.setContent number ((world.disk.content number).withTable table) }
  | .memory number =>
    { world with
      engine := { world.engine with tables := world.engine.tables.insert number table } }

/-- The engine. Its calls on an open database do not fail. -/
def engine : Engine Memory Database where
  supportsMemory := true
  openAt := openAt
  repair := repair
  close := close
  backend database := Table.backendAt (table database.place) (setTable database.place)

end ObjectVault.Files
