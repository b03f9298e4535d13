import ObjectVault.Backend

/-!
# Exchanges with a database

An exchange is a call of a database together with what came of it. What an action does to a
database is a list of exchanges (`Backend.Makes`), whichever database it is. What the exchanges
mean is said of a table: `Exchange.after` is the table that an exchange leaves, and
`Exchange.Truthful` says that a reply is one that a database with that table may give. A call that
fails or panics leaves the table as it is.
-/

namespace ObjectVault

/-- A call of a database and what came of it. -/
inductive Exchange where
  | get (key : Bytes) (reply : Reply (Option Bytes))
  | put (key value : Bytes) (durability : Durability) (reply : Reply Unit)
  | delete (key : Bytes) (durability : Durability) (reply : Reply Unit)
  | scan (scan : Scan)
  deriving DecidableEq

/-- An exchange and the table that it met. -/
structure Entry where
  before : Table
  exchange : Exchange
  deriving DecidableEq

namespace Exchange

/-- The table that an exchange leaves. -/
def after : Exchange → Table → Table
  | .put key value _ (.done ()), table => table.insert key value
  | .delete key _ (.done ()), table => table.erase key
  | _, table => table

/-- Whether the reply is one that a database with the table may give. A scan that does not come to
its end has visited some of the entries. -/
def Truthful : Exchange → Table → Prop
  | .get key (.done value), table => value = table.get? key
  | .scan seen, table =>
    seen.visited <+: table.entries ∧ (seen.ending = .done () → seen.visited = table.entries)
  | _, _ => True

/-- Whether the call works. -/
def Succeeds : Exchange → Prop
  | .get _ reply => ∃ value, reply = .done value
  | .put _ _ _ reply => reply = .done ()
  | .delete _ _ reply => reply = .done ()
  | .scan seen => seen.ending = .done ()

/-- The table that some exchanges leave. -/
def afterAll : List Exchange → Table → Table
  | [], table => table
  | exchange :: rest, table => afterAll rest (exchange.after table)

/-- Whether every exchange is truthful about the table at its time. -/
def AllTruthful : List Exchange → Table → Prop
  | [], _ => True
  | exchange :: rest, table => exchange.Truthful table ∧ AllTruthful rest (exchange.after table)

/-- Some exchanges with the tables that they met. -/
def entries : List Exchange → Table → List Entry
  | [], _ => []
  | exchange :: rest, table => ⟨table, exchange⟩ :: entries rest (exchange.after table)

/-- Whether something holds of the table before, between and after some exchanges. -/
def Throughout (property : Table → Prop) : List Exchange → Table → Prop
  | [], table => property table
  | exchange :: rest, table => property table ∧ Throughout property rest (exchange.after table)

variable {property : Table → Prop} {exchanges : List Exchange} {table : Table}

/-- A value that is not stored changes nothing. -/
theorem after_put_of_ne {key value : Bytes} {durability : Durability} {reply : Reply Unit}
    (failing : reply ≠ .done ()) : (put key value durability reply).after table = table := by
  cases reply with
  | done => exact absurd rfl failing
  | failed error => rfl
  | panicked => rfl

/-- A key that is not removed changes nothing. -/
theorem after_delete_of_ne {key : Bytes} {durability : Durability} {reply : Reply Unit}
    (failing : reply ≠ .done ()) : (delete key durability reply).after table = table := by
  cases reply with
  | done => exact absurd rfl failing
  | failed error => rfl
  | panicked => rfl

theorem afterAll_append (first second : List Exchange) (table : Table) :
    afterAll (first ++ second) table = afterAll second (afterAll first table) := by
  induction first generalizing table with
  | nil => rfl
  | cons exchange rest ih => exact ih (exchange.after table)

theorem allTruthful_append {first second : List Exchange} {table : Table} :
    AllTruthful (first ++ second) table ↔
      AllTruthful first table ∧ AllTruthful second (afterAll first table) := by
  induction first generalizing table with
  | nil => simp [AllTruthful, afterAll]
  | cons exchange rest ih => simp [AllTruthful, afterAll, ih, and_assoc]

theorem entries_append (first second : List Exchange) (table : Table) :
    entries (first ++ second) table =
      entries first table ++ entries second (afterAll first table) := by
  induction first generalizing table with
  | nil => rfl
  | cons exchange rest ih => simp [entries, afterAll, ih]

/-- What holds throughout holds at first. -/
theorem Throughout.before (throughout : Throughout property exchanges table) : property table := by
  cases exchanges with
  | nil => exact throughout
  | cons exchange rest => exact throughout.1

/-- What holds throughout holds in the end. -/
theorem Throughout.after (throughout : Throughout property exchanges table) :
    property (afterAll exchanges table) := by
  induction exchanges generalizing table with
  | nil => exact throughout
  | cons exchange rest ih => exact ih throughout.2

/-- What holds throughout two parts holds throughout both. -/
theorem Throughout.append {first second : List Exchange} (early : Throughout property first table)
    (late : Throughout property second (afterAll first table)) :
    Throughout property (first ++ second) table := by
  induction first generalizing table with
  | nil => exact late
  | cons exchange rest ih => exact ⟨early.1, ih early.2 late⟩

theorem Throughout.mono {weaker : Table → Prop}
    (throughout : Throughout property exchanges table)
    (implies : ∀ table, property table → weaker table) : Throughout weaker exchanges table := by
  induction exchanges generalizing table with
  | nil => exact implies _ throughout
  | cons exchange rest ih => exact ⟨implies _ throughout.1, ih throughout.2⟩

theorem Throughout.and {another : Table → Prop} (throughout : Throughout property exchanges table)
    (also : Throughout another exchanges table) :
    Throughout (fun table => property table ∧ another table) exchanges table := by
  induction exchanges generalizing table with
  | nil => exact ⟨throughout, also⟩
  | cons exchange rest ih => exact ⟨⟨throughout.1, also.1⟩, ih throughout.2 also.2⟩

/-- What holds throughout some exchanges holds of every table that one of them met. -/
theorem Throughout.of_mem_entries (throughout : Throughout property exchanges table)
    {entry : Entry} (member : entry ∈ entries exchanges table) : property entry.before := by
  induction exchanges generalizing table with
  | nil => cases member
  | cons exchange rest ih =>
    rcases List.mem_cons.1 member with rfl | later
    · exact throughout.1
    · exact ih throughout.2 later

/-- What holds throughout some exchanges holds of every table that one of them left. -/
theorem Throughout.after_of_mem_entries (throughout : Throughout property exchanges table)
    {entry : Entry} (member : entry ∈ entries exchanges table) :
    property (entry.exchange.after entry.before) := by
  induction exchanges generalizing table with
  | nil => cases member
  | cons exchange rest ih =>
    rcases List.mem_cons.1 member with rfl | later
    · exact throughout.2.before
    · exact ih throughout.2 later

theorem exchange_mem_of_mem_entries {entry : Entry} (member : entry ∈ entries exchanges table) :
    entry.exchange ∈ exchanges := by
  induction exchanges generalizing table with
  | nil => cases member
  | cons exchange rest ih =>
    rcases List.mem_cons.1 member with rfl | later
    · exact .head _
    · exact .tail _ (ih later)

end Exchange

variable {ω : Type}

/-- Whether a database answers some calls in a row as the exchanges say, and what becomes of the
world. -/
inductive Backend.Makes (backend : Backend ω) : ω → List Exchange → ω → Prop where
  | nothing {world} : Makes backend world [] world
  | get {world rest later} (key)
      (makes : Makes backend (backend.get key world).2 rest later) :
      Makes backend world (.get key (backend.get key world).1 :: rest) later
  | put {world rest later} (key value durability)
      (makes : Makes backend (backend.put key value durability world).2 rest later) :
      Makes backend world
        (.put key value durability (backend.put key value durability world).1 :: rest) later
  | delete {world rest later} (key durability)
      (makes : Makes backend (backend.delete key durability world).2 rest later) :
      Makes backend world
        (.delete key durability (backend.delete key durability world).1 :: rest) later
  | scan {world rest later} (makes : Makes backend (backend.scan world).2 rest later) :
      Makes backend world (.scan (backend.scan world).1 :: rest) later

/-- Calls may be made after calls. -/
theorem Backend.Makes.trans {backend : Backend ω} {world middle later : ω}
    {first second : List Exchange} (early : backend.Makes world first middle)
    (late : backend.Makes middle second later) : backend.Makes world (first ++ second) later := by
  induction early with
  | nothing => exact late
  | get key _ ih => exact .get key (ih late)
  | put key value durability _ ih => exact .put key value durability (ih late)
  | delete key durability _ ih => exact .delete key durability (ih late)
  | scan _ ih => exact .scan (ih late)

end ObjectVault
