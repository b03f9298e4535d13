import ObjectVault.Engine
import ObjectVault.Metadata

/-!
# Recovery

A database is brought up in stages. It is opened; if that fails it is repaired and opened again;
if that fails too it is moved aside and an empty one is opened in its place. Every failed stage
is reported as an event. A database that has not been initialized is then given its metadata.

The move aside is not a condition of what follows: when it fails, whatever is there is opened
once more.
-/

namespace ObjectVault

/-- How a database was brought up. -/
inductive Recovery where
  | opened
  | repaired
  /-- It opened after what was there had been moved aside, or after an attempt to do so. -/
  | recreated
  deriving DecidableEq, Repr

namespace Recovery

/-- The way in a message. -/
def message : Recovery → String
  | .opened => "opened"
  | .repaired => "repaired"
  | .recreated => "recreated"

/-- The way in inspection text. -/
def inspect : Recovery → String
  | .opened => "Opened"
  | .repaired => "Repaired"
  | .recreated => "Recreated"

/-- All ways. -/
def all : List Recovery := [.opened, .repaired, .recreated]

end Recovery

/-- A database that has been brought up. -/
structure Opened (η : Type) where
  handle : η
  recovery : Recovery
  isNew : Bool
  deriving DecidableEq, Repr

/-- The vault on the database in inspection text. -/
def Opened.inspect {η : Type} (opened : Opened η) : String :=
  Inspect.partly "ObjectStore"
    [("outcome", opened.recovery.inspect), ("is_new", Inspect.truth opened.isNew)]

namespace Layout

/-- The location of the database in use. -/
def location (layout : Layout) : Location := .directory layout.database

/-- Moves the database in use to the quarantine, in place of what is there. What is there is
gone even if the database cannot be moved. -/
def moveAside (layout : Layout) (disk : Disk) : Except FileError Unit × Disk :=
  match disk.removeDirectory (.ofText layout.quarantine) with
  | (.ok (), cleared) | (.error .notFound, cleared) =>
    match cleared.move (.ofText layout.database) (.ofText layout.quarantine) with
    | .error error => (.error error, cleared)
    | .ok moved => (.ok (), moved)
  | (.error error, left) => (.error error, left)

end Layout

namespace Recovery

variable {ω σ η : Type}

/-- Makes room for a new database by moving the damaged one aside. -/
def quarantine (layout : Layout) : Action (World σ) Unit := do
  let result ← Action.step fun world =>
    let (result, disk) := layout.moveAside world.disk
    (result, { world with disk })
  match result with
  | .ok () => Action.log .warn ("Moved damaged database to " ++ layout.quarantine)
  | .error error =>
    Action.log .error
      ("Failed to move damaged database to " ++ layout.quarantine ++ ": " ++ error.message)

/-- The last stage: opens an empty database. -/
def recreate (engine : Engine σ η) (sink : EventSink) (layout : Option Layout)
    (location : Location) : Action (World σ) (η × Recovery) := do
  Action.log .warn "Recreating database from scratch"
  match layout with
  | some layout => quarantine layout
  | none => pure ()
  match ← engine.tryOpen location {} with
  | .ok handle => return (handle, .recreated)
  | .error error =>
    Action.log .error ("Failed to create new database: " ++ error.message)
    Action.send sink .databaseCreateFailure
    Action.fail (.initializationFailed error.message)

/-- Repairs a database and opens it. -/
def repairAndOpen (engine : Engine σ η) (location : Location) :
    Action (World σ) (Except BackendError η) := do
  match ← engine.tryRepair location with
  | .ok () => engine.tryOpen location {}
  | .error error => return .error error

/-- Opens the database at a location stage by stage. -/
def openInStages (engine : Engine σ η) (sink : EventSink) (layout : Option Layout)
    (location : Location) : Action (World σ) (η × Recovery) := do
  match ← engine.tryOpen location {} with
  | .ok handle => return (handle, .opened)
  | .error openError =>
    Action.log .error ("Failed to open database: " ++ openError.message)
    Action.send sink .databaseCorrupted
    Action.log .warn "Attempting to repair database"
    match ← repairAndOpen engine location with
    | .ok handle =>
      Action.log .info "Repaired database"
      return (handle, .repaired)
    | .error repairError =>
      Action.log .error ("Failed to repair database: " ++ repairError.message)
      Action.send sink .databaseRepairFailure
      recreate engine sink layout location

/-- Initializes a database unless it is initialized already, and answers whether it was not. -/
def initializeOnce (backend : Backend ω) : Action ω Bool := do
  match ← (Metadata.isInitialized backend).attempt with
  | .error error =>
    Action.fail (.initializationFailed ("failed to read metadata: " ++ error.message))
  | .ok true => return false
  | .ok false =>
    Action.log .info "Initializing fresh database"
    match ← (Metadata.setUp backend).attempt with
    | .ok () => return true
    | .error error =>
      Action.log .error ("Failed to initialize the blob ID tracker: " ++ error.message)
      Action.fail (.initializationFailed ("failed to write metadata: " ++ error.message))

/-- Brings up the database below a root or in memory. It is closed again if its metadata cannot
be read or written. -/
def bringUp (engine : Engine σ η) (sink : EventSink) (root : Location) :
    Action (World σ) (Opened η) := do
  if root.isMemory && !engine.supportsMemory then
    Action.log .error "Compiled without in-memory database support"
    Action.fail
      (.unsupportedEnvironment
        ("location " ++ root.message ++ " requires in-memory database support"))
  else
    let layout := root.path?.map Layout.mk
    let location := (layout.map Layout.location).getD .memory
    Action.log .info ("Opening database in: " ++ location.message)
    let (handle, recovery) ← openInStages engine sink layout location
    let isNew ← (initializeOnce (engine.backend handle)).orElseChange (engine.close handle)
    Action.log .info ("Database " ++ recovery.message ++ " at " ++ location.message)
    return ⟨handle, recovery, isNew⟩

end Recovery

end ObjectVault
