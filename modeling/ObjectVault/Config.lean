import ObjectVault.Recovery
import ObjectVault.Vault

/-!
# Opening a vault

A configuration says where the vault is, who hears of its recovery, and which master key it
starts with.
-/

namespace ObjectVault

/-- How a vault is to be opened. -/
structure Config where
  location : Location
  sink : EventSink := .log
  masterKey : Option SealingKey := none

namespace Config

/-- The configuration for a location given as a text. -/
def ofText (text : String) : Config := { location := .ofText text }

/-- The configuration for a root directory, whatever it is called. -/
def atRoot (root : String) : Config := { location := .directory root }

/-- The configuration in inspection text, which does not tell the key. -/
def inspect (config : Config) : String :=
  Inspect.partly "StoreConfig"
    [("location", config.location.inspect),
      ("has_encryption_key", Inspect.truth config.masterKey.isSome)]

end Config

namespace Vault

variable {ω σ η : Type}

/-- Brings up the database of a configured vault. -/
def bringUp (engine : Engine σ η) (config : Config) : Action (World σ) (Opened η) :=
  Recovery.bringUp engine config.sink config.location

/-- What a vault on an open database runs on. -/
def services (engine : Engine σ η) (suite : Suite) (handle : η) : Services (World σ) :=
  ⟨suite, engine.backend handle⟩

/-- A vault as it is right after its database has been brought up. -/
def fresh (config : Config) (world : ω) (nonces : NonceSupply) : Vault ω :=
  { session := { world, nonces, masterKey := config.masterKey } }

end Vault

end ObjectVault
