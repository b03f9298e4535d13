import ObjectVault.Command.Run
import ObjectVault.Engine.Files
import ObjectVault.Engine.Scripted

/-!
# Steps of a workbench

On a workbench several vaults and databases are open side by side on one disk. Here is what can
be asked of it, and what it answers.
-/

namespace ObjectVault.Workbench

/-- Who hears of the stages of recovery. -/
inductive SinkChoice where
  /-- A list, which answers as told. -/
  | recorded (answer : Bool)
  | silent
  | log
  deriving DecidableEq, Repr

namespace SinkChoice

/-- The sink itself. -/
def sink : SinkChoice → EventSink
  | .recorded answer => .quiet answer
  | .silent => .silent
  | .log => .log

/-- The events that are seen afterwards. -/
def seen (choice : SinkChoice) (events : List Event) : List Event :=
  match choice with
  | .recorded _ => events
  | _ => []

end SinkChoice

/-- How a vault is to be opened. -/
structure Setup where
  location : Location
  key : Option Bytes := none
  sink : SinkChoice := .recorded true
  /-- Whether the engine is left out of sight. Its calls are not seen then, nor is its database. -/
  hidden : Bool := false
  failingOpens : Nat := 0
  repair : Scripted.RepairScript := .delegate
  supportsMemory : Bool := true
  rules : List Scripted.Rule := []
  deriving DecidableEq, Repr

/-- How a file is damaged. -/
inductive Damage where
  | header
  | pages
  /-- The file becomes a database with a table of numbers. -/
  | numbers
  | multimap
  deriving DecidableEq, Repr

/-- What can be asked of a workbench. -/
inductive Step where
  | openVault (setup : Setup)
  | setRules (rules : List Scripted.Rule)
  | operate (operation : Vault.Operation)
  | info
  | close
  /-- Take what is in the slot away, and leave the file at a path as it is. -/
  | crash (path : String)
  | openDatabase (location : Location) (options : OpenOptions)
  | repairDatabase (location : Location)
  | inspectDatabase (location : Location)
  | get (key : Bytes)
  | put (key value : Bytes) (durability : Durability)
  | delete (key : Bytes) (durability : Durability)
  | scan
  | writeFile (path : String) (bytes : Bytes)
  | createDirectory (path : String)
  | move (source target : String)
  | copy (source target : String)
  | remove (path : String)
  | showFile (path : String)
  | listFiles (path : String)
  | damage (path : String) (how : Damage)
  | command (environment : Environment) (arguments : List String)
  deriving DecidableEq, Repr

/-- What a step answers. -/
inductive Answer where
  | nothing
  | opened (recovery : Recovery) (isNew : Bool)
  | vault (answer : Vault.Answer)
  | info (recovery : Recovery) (isNew : Bool) (text : String)
  | value (value : Option Bytes)
  | entries (entries : List (Bytes × Bytes))
  | content (bytes : Bytes)
  | listing (nodes : List (String × Node))
  | text (text : String)
  | output (text : String)
  deriving DecidableEq

/-- Why a step fails. -/
inductive Problem where
  | vault (error : VaultError)
  | backend (error : BackendError)
  | files (error : FileError)
  | noVault
  /-- There is no database in sight in the slot. -/
  | noDatabase
  | panicked
  | usage (usage : Command.Usage)
  | command (failure : Command.Failure)
  deriving DecidableEq, Repr

/-- What is seen of a step. -/
structure Sight where
  result : Except Problem Answer
  lines : List LogLine := []
  events : List Event := []
  calls : List EngineCall := []

end ObjectVault.Workbench
