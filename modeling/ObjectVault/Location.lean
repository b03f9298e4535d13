import ObjectVault.Text.Inspect
import ObjectVault.Text.Quoted

/-!
# Locations

Where a vault keeps its database: in memory, or in a directory with a fixed layout.
-/

namespace ObjectVault

/-- Where a database is. -/
inductive Location where
  | memory
  | directory (path : String)
  deriving DecidableEq, Repr

namespace Location

/-- The text that stands for a database in memory. -/
def memoryMarker : String := ":memory:"

/-- The location that a text names. -/
def ofText (text : String) : Location :=
  if text = memoryMarker then .memory else .directory text

/-- The path of a directory. -/
def path? : Location → Option String
  | .memory => none
  | .directory path => some path

/-- Whether the location is in memory. -/
def isMemory (location : Location) : Bool := location.path?.isNone

/-- The location in a message. -/
def message : Location → String
  | .memory => memoryMarker
  | .directory path => path

/-- The location in inspection text. -/
def inspect : Location → String
  | .memory => "Memory"
  | .directory path => Inspect.applied "Path" [Quoted.text path]

end Location

/-- A path with one more part at its end. One slash is put between, unless the path is empty or
ends with one. -/
def joinPath (path part : String) : String :=
  if path = "" ∨ path.toList.getLast? = some '/' then path ++ part else path ++ "/" ++ part

/-- The name of the database file in a database directory. -/
def databaseFilename : String := "store.redb"

/-- The path of the database file in a database directory. -/
def databaseFile (directory : String) : String := joinPath directory databaseFilename

/-- The paths below the root directory of a vault. -/
structure Layout where
  root : String
  deriving DecidableEq, Repr

namespace Layout

/-- The directory of the database in use. -/
def database (layout : Layout) : String := joinPath layout.root "database"

/-- The directory to which a damaged database is moved. -/
def quarantine (layout : Layout) : String := joinPath layout.root "database_corrupt"

/-- The layout in inspection text. -/
def inspect (layout : Layout) : String :=
  Inspect.closed "StorePaths" [("root", Quoted.text layout.root)]

end Layout

/-- How a database is to be opened. -/
structure OpenOptions where
  /-- Whether an empty database is created where there is none. -/
  createIfMissing : Bool := true
  /-- Whether any inconsistency is an error rather than repaired in silence. -/
  strict : Bool := true
  deriving DecidableEq, Repr

/-- The options in inspection text. -/
def OpenOptions.inspect (options : OpenOptions) : String :=
  Inspect.closed "OpenOptions"
    [("create_if_missing", Inspect.truth options.createIfMissing),
      ("strict", Inspect.truth options.strict)]

end ObjectVault
