import ObjectVault.Error
import ObjectVault.SortedMap

/-!
# Databases as the vault uses them

A backend reads, writes and deletes entries of a sorted map from byte strings to byte strings,
and visits all of them in key order. Its calls act on a world of some type, which is whatever the
database and its surroundings need to keep. A call may fail or panic, and nothing is said about
the world then: a statement about the vault says for itself which backends it is about.

`Table.backend` is the backend that never fails. It acts on a world that holds a table.
-/

namespace ObjectVault

/-- How a call of a database ends. -/
inductive Reply (α : Type) where
  | done (value : α)
  | failed (error : BackendError)
  | panicked
  deriving DecidableEq, Repr

/-- When a write has to be on stable storage. -/
inductive Durability where
  | synced
  | eventual
  deriving DecidableEq, Repr

/-- What a scan shows: some entries, and then how it ends. -/
structure Scan where
  visited : List (Bytes × Bytes)
  ending : Reply Unit
  deriving DecidableEq, Repr

/-- The calls of a database in a world. -/
structure Backend (ω : Type) where
  get : (key : Bytes) → ω → Reply (Option Bytes) × ω
  put : (key value : Bytes) → Durability → ω → Reply Unit × ω
  delete : (key : Bytes) → Durability → ω → Reply Unit × ω
  /-- Visits every entry in ascending key order. -/
  scan : ω → Scan × ω

/-- The contents of a database. -/
abbrev Table := SortedMap Bytes Bytes

namespace Table

/-- The backend that keeps the table which `view` finds in the world and `store` puts there. -/
def backendAt {ω : Type} (view : ω → Table) (store : Table → ω → ω) : Backend ω where
  get key world := (.done ((view world).get? key), world)
  put key value _ world := (.done (), store ((view world).insert key value) world)
  delete key _ world := (.done (), store ((view world).erase key) world)
  scan world := (⟨(view world).entries, .done ()⟩, world)

/-- The backend whose world is the table itself. -/
def backend : Backend Table := backendAt id fun table _ => table

end Table

end ObjectVault
