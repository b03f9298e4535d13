import ObjectVault.Log

/-!
# Lifecycle events

Each step up in the recovery of a database is reported to a sink. Nothing depends on what the
sink answers.
-/

namespace ObjectVault

/-- A step up in the recovery of a database. -/
inductive Event where
  /-- The database did not open, and a repair is tried. -/
  | databaseCorrupted
  | databaseRepairFailure
  | databaseCreateFailure
  deriving DecidableEq, Repr

namespace Event

/-- The event in inspection text. -/
def inspect : Event → String
  | .databaseCorrupted => "DatabaseCorrupted"
  | .databaseRepairFailure => "DatabaseRepairFailure"
  | .databaseCreateFailure => "DatabaseCreateFailure"

/-- The name under which the event is reported. -/
def name (event : Event) : String := "TokenStore." ++ event.inspect

end Event

/-- A receiver of events. -/
structure EventSink where
  accepts : Event → Bool
  lines : Event → List LogLine

namespace EventSink

/-- Reports every event in the log. -/
def log : EventSink where
  accepts _ := true
  lines event := [⟨.info, "Store event: " ++ event.name⟩]

/-- Drops every event. -/
def silent : EventSink where
  accepts _ := false
  lines _ := []

/-- Takes note of every event outside the log, and answers as told. -/
def quiet (answer : Bool) : EventSink where
  accepts _ := answer
  lines _ := []

end EventSink

end ObjectVault
