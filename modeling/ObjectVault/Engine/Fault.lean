import ObjectVault.Error

/-!
# Engine faults

The errors inside an engine, by the part of it in which they arise. Each becomes a backend error,
whose kind depends on that part: the same broken page is reported as corruption when a file is
opened and as a failed transaction when it is used.
-/

namespace ObjectVault

/-- An error while pages are read or written. -/
inductive StorageFault where
  | corrupted (reason : String)
  | io (reason : String)
  | valueTooLarge (length : Nat)
  /-- An earlier error has made the file unusable. -/
  | previousIo
  deriving DecidableEq, Repr

/-- An error while a file is opened. -/
inductive DatabaseFault where
  | storage (fault : StorageFault)
  /-- The file needs a repair, and none is wanted. -/
  | repairAborted
  | alreadyOpen
  | upgradeRequired (version : Nat)
  deriving DecidableEq, Repr

/-- An error while a table is opened. -/
inductive TableFault where
  | storage (fault : StorageFault)
  | missing (table : String)
  | exists (table : String)
  | multimap (table : String)
  | otherType (table keyType valueType : String)
  deriving DecidableEq, Repr

/-- An error inside an engine. -/
inductive EngineFault where
  | io (reason : String)
  | storage (fault : StorageFault)
  | database (fault : DatabaseFault)
  | transaction (fault : StorageFault)
  | table (fault : TableFault)
  | commit (fault : StorageFault)
  deriving DecidableEq, Repr

/-- The error in one line. -/
def StorageFault.message : StorageFault → String
  | .corrupted reason => "DB corrupted: " ++ reason
  | .io reason => "I/O error: " ++ reason
  | .valueTooLarge length =>
    "The value (length=" ++ toString length ++ ") being inserted exceeds the maximum of 3GiB"
  | .previousIo => "Previous I/O error occurred. Please close and re-open the database."

/-- The error in one line. -/
def DatabaseFault.message : DatabaseFault → String
  | .storage fault => fault.message
  | .repairAborted => "Database repair aborted."
  | .alreadyOpen => "Database already open. Cannot acquire lock."
  | .upgradeRequired version =>
    "Manual upgrade required. Expected file format version 2, but file is version " ++
      toString version

/-- The error in one line. -/
def TableFault.message : TableFault → String
  | .storage fault => fault.message
  | .missing table => "Table '" ++ table ++ "' does not exist"
  | .exists table => "Table '" ++ table ++ "' already exists"
  | .multimap table => table ++ " is a multimap table"
  | .otherType table keyType valueType =>
    table ++ " is of type Table<" ++ keyType ++ ", " ++ valueType ++ ">"

namespace EngineFault

/-- The error in one line. -/
def message : EngineFault → String
  | .io reason => reason
  | .storage fault | .transaction fault | .commit fault => fault.message
  | .database fault => fault.message
  | .table fault => fault.message

/-- What kind of backend error it is. -/
def kind : EngineFault → BackendError.Kind
  | .io _ => .io
  | .storage (.corrupted _) => .corrupted
  | .storage (.io _) => .io
  | .storage _ => .transaction
  | .database .repairAborted => .corrupted
  | .database (.storage (.corrupted _)) => .corrupted
  | .database _ => .opening
  | .transaction _ | .table _ | .commit _ => .transaction

/-- The backend error that it becomes. -/
def toBackendError (fault : EngineFault) : BackendError := ⟨fault.kind, fault.message⟩

end EngineFault

end ObjectVault
