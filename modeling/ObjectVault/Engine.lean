import ObjectVault.Action
import ObjectVault.Disk

/-!
# Engines

An engine opens and repairs databases at locations. It works on a world that has a disk and
whatever else the engine keeps, and what it opens is known by a handle of some type. Nothing is
said about what an engine does, so a statement about the vault says which engines it is about.
-/

namespace ObjectVault

/-- A disk, and what an engine keeps beside it. -/
structure World (σ : Type) where
  disk : Disk := {}
  engine : σ

/-- What comes of an attempt to repair a database. -/
structure Repair where
  result : Except BackendError Unit
  lines : List LogLine := []

/-- An engine whose open databases are known by handles of type `η`. -/
structure Engine (σ η : Type) where
  supportsMemory : Bool
  openAt : Location → OpenOptions → World σ → Except BackendError η × World σ
  /-- Repairs the database at a location, which is not open. -/
  repair : Location → World σ → Repair × World σ
  close : η → World σ → World σ
  backend : η → Backend (World σ)

namespace Engine

variable {σ η : Type}

/-- Opens the database at a location. -/
def tryOpen (engine : Engine σ η) (location : Location) (options : OpenOptions) :
    Action (World σ) (Except BackendError η) := do
  Action.noteCall (.openAt location options)
  Action.step (engine.openAt location options)

/-- Repairs the database at a location. -/
def tryRepair (engine : Engine σ η) (location : Location) :
    Action (World σ) (Except BackendError Unit) := do
  Action.noteCall (.repair location)
  let repair ← Action.step (engine.repair location)
  Action.logLines repair.lines
  return repair.result

end Engine

end ObjectVault
