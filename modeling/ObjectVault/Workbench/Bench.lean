import ObjectVault.Workbench.Step

/-!
# Workbenches

A workbench keeps a disk and the vaults and databases in its slots, and takes one step after the
other. The nonces are drawn from one supply by all vaults.
-/

namespace ObjectVault.Workbench

/-- The world of a vault on a workbench. -/
abbrev BenchWorld := World (Scripted.State Files.Memory)

/-- A vault in a slot. -/
structure Installed where
  setup : Setup
  opened : Opened Files.Database
  /-- The vault itself. The world in it is the one after its last call. -/
  vault : Vault BenchWorld

/-- What is in a slot. -/
inductive Occupant where
  | vault (installed : Installed)
  | database (database : Files.Database)

namespace Occupant

/-- The database of a vault, or the database itself. -/
def opened : Occupant → Files.Database
  | .vault installed => installed.opened.handle
  | .database opened => opened

/-- The database, unless it is out of sight. -/
def visible? : Occupant → Option Files.Database
  | .vault installed => if installed.setup.hidden then none else some installed.opened.handle
  | .database opened => some opened

end Occupant

/-- A disk, and what is in the slots. -/
structure Bench where
  root : String
  world : World Files.Memory
  nonces : NonceSupply
  slots : SortedMap String Occupant := ∅

namespace Bench

/-- A workbench with nothing but an empty root directory. -/
def fresh (root : String) (nonces : NonceSupply) : Bench where
  root := root
  world := {
    disk := (Disk.createDirectories {} (.ofText root)).toOption.getD {}
    engine := {} }
  nonces := nonces

/-- The path of a file below the root. -/
def path (bench : Bench) (relative : String) : Path := .ofText (joinPath bench.root relative)

/-- The bench with another disk. -/
def withDisk (disk : Disk) (bench : Bench) : Bench :=
  { bench with world := { bench.world with disk } }

/-- Puts something in an empty slot. -/
def place (slot : String) (occupant : Occupant) (bench : Bench) : Bench :=
  { bench with slots := bench.slots.insert slot occupant }

/-- Closes what is in a slot. -/
def vacate (slot : String) (bench : Bench) : Bench :=
  match bench.slots.get? slot with
  | none => bench
  | some occupant =>
    { bench with
      world := Files.close occupant.opened bench.world
      slots := bench.slots.erase slot }

/-- The entries of every database in sight, by the slot in which it is. -/
def contents (bench : Bench) : List (String × List (Bytes × Bytes)) :=
  bench.slots.entries.filterMap fun (slot, occupant) =>
    occupant.visible?.map fun database =>
      (slot, (Files.table database.place bench.world).entries)

/-- The engine of a vault. -/
def engine (setup : Setup) : Engine (Scripted.State Files.Memory) Files.Database :=
  Scripted.scripted Files.engine setup.supportsMemory setup.repair

/-- The world of a vault whose engine is about to follow its script. -/
def scriptedWorld (setup : Setup) (world : World Files.Memory) : BenchWorld where
  disk := world.disk
  engine := {
    inner := world.engine
    failingOpens := setup.failingOpens
    rules := setup.rules }

/-- A step that shows only its answer. -/
def silently (bench : Bench) (result : Except Problem Answer) : Sight × Bench :=
  ({ result }, bench)

/-- Brings up a vault in an empty slot. -/
def bringUp (setup : Setup) (key : Option SealingKey) (slot : String) (bench : Bench) :
    Sight × Bench :=
  let config : Config := {
    location := setup.location
    sink := setup.sink.sink
    masterKey := key }
  let (ending, machine) :=
    (Vault.bringUp (engine setup) config).run ⟨scriptedWorld setup bench.world, {}⟩
  let journal := machine.journal
  let bench := { bench with world := Scripted.innerWorld machine.state }
  let sight (result : Except Problem Answer) : Sight := {
    result
    lines := journal.lines
    events := setup.sink.seen journal.events
    calls := if setup.hidden then [] else journal.calls }
  match ending with
  | .panicked => ({ result := .error .panicked, lines := journal.lines }, bench)
  | .failed error => (sight (.error (.vault error)), bench)
  | .done opened =>
    let vault := Vault.fresh config machine.state bench.nonces
    (sight (.ok (.opened opened.recovery opened.isNew)),
      bench.place slot (.vault ⟨setup, opened, vault⟩))

/-- Opens a vault in a slot. -/
def openVault (setup : Setup) (slot : String) (bench : Bench) : Sight × Bench :=
  let bench := bench.vacate slot
  match setup.key with
  | none => bringUp setup none slot bench
  | some bytes =>
    match SealingKey.ofBytes bytes with
    | .ok key => bringUp setup (some key) slot bench
    | .error error => bench.silently (.error (.vault error))

/-- Lets other calls of the database of a vault fail. A vault whose engine is out of sight has no
such rules. -/
def setRules (rules : List Scripted.Rule) (slot : String) (bench : Bench) : Sight × Bench :=
  match bench.slots.get? slot with
  | some (.vault installed) =>
    let setup :=
      if installed.setup.hidden then installed.setup else { installed.setup with rules }
    (bench.place slot (.vault { installed with setup })).silently (.ok .nothing)
  | _ => bench.silently (.ok .nothing)

/-- Calls the vault in a slot. -/
def operate (operation : Vault.Operation) (slot : String) (bench : Bench) : Sight × Bench :=
  match bench.slots.get? slot with
  | some (.vault installed) =>
    let setup := installed.setup
    let services :=
      Vault.services (engine setup) Suite.standard installed.opened.handle
    let session := { installed.vault.session with
      world := scriptedWorld setup bench.world
      nonces := bench.nonces }
    let (ending, machine) :=
      (Vault.perform services operation).run ⟨{ installed.vault with session }, {}⟩
    let later := machine.state
    let setup := { setup with rules := later.session.world.engine.rules }
    let bench := { bench with
      world := Scripted.innerWorld later.session.world
      nonces := later.session.nonces
      slots := bench.slots.insert slot (.vault { installed with setup, vault := later }) }
    let result :=
      match ending with
      | .done answer => .ok (.vault answer)
      | .failed error => .error (.vault error)
      | .panicked => .error .panicked
    ({ result, lines := machine.journal.lines }, bench)
  | _ => bench.silently (.error .noVault)

/-- Tells how the vault in a slot was opened. -/
def info (slot : String) (bench : Bench) : Except Problem Answer :=
  match bench.slots.get? slot with
  | some (.vault installed) =>
    let opened := installed.opened
    .ok (.info opened.recovery opened.isNew opened.inspect)
  | _ => .error .noVault

/-- Takes away what is in a slot, and leaves the file at a path as it is now, unless someone else
holds it open. -/
def crash (path : Path) (slot : String) (bench : Bench) : Sight × Bench :=
  let disk := bench.world.disk
  match disk.find path with
  | .error error => bench.silently (.error (.files error))
  | .ok .directory => bench.silently (.error (.files .isADirectory))
  | .ok (.file number) =>
    let left := bench.vacate slot
    let later := left.world.disk
    let restored :=
      if later.isLocked number then left
      else left.withDisk (later.setContent number (disk.content number))
    restored.silently (.ok .nothing)

/-- Opens a database in a slot. -/
def openDatabase (location : Location) (options : OpenOptions) (slot : String) (bench : Bench) :
    Sight × Bench :=
  let bench := bench.vacate slot
  let (result, world) := Files.openAt location options bench.world
  let bench := { bench with world }
  match result with
  | .ok database => (bench.place slot (.database database)).silently (.ok .nothing)
  | .error error => bench.silently (.error (.backend error))

/-- Repairs a database. -/
def repairDatabase (location : Location) (bench : Bench) : Sight × Bench :=
  let (repair, world) := Files.repair location bench.world
  let result :=
    match repair.result with
    | .ok () => .ok .nothing
    | .error error => .error (.backend error)
  ({ result, lines := repair.lines }, { bench with world })

/-- Tells what an open database looks like. -/
def inspectDatabase (location : Location) (bench : Bench) : Sight × Bench :=
  let (result, world) := Files.openAt location {} bench.world
  match result with
  | .ok database =>
    let closed := { bench with world := Files.close database world }
    closed.silently (.ok (.text database.inspect))
  | .error error => { bench with world }.silently (.error (.backend error))

/-- Makes a call of the database in a slot, past all rules. -/
def callDatabase {α : Type} (request : Backend (World Files.Memory) → World Files.Memory →
    Reply α × World Files.Memory) (answer : α → Answer) (slot : String) (bench : Bench) :
    Sight × Bench :=
  match (bench.slots.get? slot).bind Occupant.visible? with
  | none => bench.silently (.error .noDatabase)
  | some database =>
    let (reply, world) := request (Files.engine.backend database) bench.world
    let result :=
      match reply with
      | .done value => .ok (answer value)
      | .failed error => .error (.backend error)
      | .panicked => .error .panicked
    { bench with world }.silently result

/-- Visits all entries of a database, and answers them. -/
def scanAll {ω : Type} (backend : Backend ω) (world : ω) : Reply (List (Bytes × Bytes)) × ω :=
  let (scan, world) := backend.scan world
  let reply :=
    match scan.ending with
    | .done () => .done scan.visited
    | .failed error => .failed error
    | .panicked => .panicked
  (reply, world)

/-- Changes the disk, if that succeeds. -/
def changeDisk (result : Except FileError Disk) (bench : Bench) : Sight × Bench :=
  match result with
  | .ok disk => (bench.withDisk disk).silently (.ok .nothing)
  | .error error => bench.silently (.error (.files error))

/-- Answers what is on the disk. -/
def readDisk {α : Type} (answer : α → Answer) (result : Except FileError α) (bench : Bench) :
    Sight × Bench :=
  match result with
  | .ok value => bench.silently (.ok (answer value))
  | .error error => bench.silently (.error (.files error))

/-- The bytes of a file. How a database is laid out is not told. -/
def plainBytes : FileContent → Bytes
  | .plain bytes => bytes
  | .database _ => []

/-- Damages a file. -/
def damaged (how : Damage) (path : Path) (disk : Disk) : Except FileError Disk :=
  match how with
  | .header => disk.read path >>= fun content =>
    disk.write path (content.withCondition .headerLost)
  | .pages => disk.read path >>= fun content =>
    disk.write path (content.withCondition .beyondRepair)
  | .numbers => disk.write path (.database { contents := .numbers })
  | .multimap => disk.write path (.database { contents := .multimap })

/-- Runs a command line. -/
def command (environment : Environment) (arguments : List String) (bench : Bench) :
    Sight × Bench :=
  match Command.parse environment arguments with
  | .error usage => bench.silently (.error (.usage usage))
  | .ok invocation =>
    let outcome :=
      Command.run Files.engine Suite.standard invocation bench.world bench.nonces
    let result :=
      match outcome.result with
      | .printed out => .ok (.output out)
      | .failed failure => .error (.command failure)
      | .panicked => .error .panicked
    ({ result, lines := outcome.journal.lines },
      { bench with world := outcome.world, nonces := outcome.nonces })

/-- Takes a step. -/
def take (slot : String) (step : Step) (bench : Bench) : Sight × Bench :=
  let disk := bench.world.disk
  match step with
  | .openVault setup => bench.openVault setup slot
  | .setRules rules => bench.setRules rules slot
  | .operate operation => bench.operate operation slot
  | .info => bench.silently (bench.info slot)
  | .close => (bench.vacate slot).silently (.ok .nothing)
  | .crash path => bench.crash (bench.path path) slot
  | .openDatabase location options => bench.openDatabase location options slot
  | .repairDatabase location => bench.repairDatabase location
  | .inspectDatabase location => bench.inspectDatabase location
  | .get key => bench.callDatabase (fun backend => backend.get key) .value slot
  | .put key value durability =>
    bench.callDatabase (fun backend => backend.put key value durability) (fun _ => .nothing) slot
  | .delete key durability =>
    bench.callDatabase (fun backend => backend.delete key durability) (fun _ => .nothing) slot
  | .scan => bench.callDatabase scanAll .entries slot
  | .writeFile path bytes =>
    bench.changeDisk
      (disk.createDirectories (bench.path path).parent >>= fun created =>
        created.write (bench.path path) (.plain bytes))
  | .createDirectory path => bench.changeDisk (disk.createDirectories (bench.path path))
  | .move source target => bench.changeDisk (disk.move (bench.path source) (bench.path target))
  | .copy source target => bench.changeDisk (disk.copy (bench.path source) (bench.path target))
  | .remove path => bench.changeDisk (disk.remove (bench.path path))
  | .showFile path =>
    bench.readDisk (fun content => .content (plainBytes content)) (disk.read (bench.path path))
  | .listFiles path => bench.silently (.ok (.listing (disk.listing (bench.path path))))
  | .damage path how => bench.changeDisk (damaged how (bench.path path) disk)
  | .command environment arguments => bench.command environment arguments

end Bench

end ObjectVault.Workbench
