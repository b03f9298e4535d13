/-!
# Log lines

What the vault reports while it works, and which of all lines written in a process reach the
host's logger: every line that reports progress or a problem, and finer ones only from the
vault's own modules.
-/

namespace ObjectVault

/-- How severe a log line is, from the least to the most severe. -/
inductive LogLevel where
  | trace
  | debug
  | info
  | warn
  | error
  deriving DecidableEq, Repr

namespace LogLevel

/-- The place of a level in the order of severity. -/
def rank : LogLevel → Nat
  | .trace => 0
  | .debug => 1
  | .info => 2
  | .warn => 3
  | .error => 4

instance : Ord LogLevel := ⟨fun left right => compare left.rank right.rank⟩

/-- The level in inspection text. -/
def inspect : LogLevel → String
  | .trace => "Trace"
  | .debug => "Debug"
  | .info => "Info"
  | .warn => "Warn"
  | .error => "Error"

end LogLevel

/-- One line of the log. -/
structure LogLine where
  level : LogLevel
  message : String
  deriving DecidableEq, Repr

namespace LogLine

/-- How the names of the vault's own modules start. -/
def ownModules : String := "tokenstore"

/-- Whether a line from the named module, if its module is known, reaches the host's logger. -/
def isForwarded (level : LogLevel) (origin : Option String) : Bool :=
  match level with
  | .trace | .debug => origin.any fun name => ownModules.toList.isPrefixOf name.toList
  | _ => true

end LogLine

end ObjectVault
