import ObjectVault.Command.Arguments
import ObjectVault.Config
import ObjectVault.Hex
import ObjectVault.Text.Blank

/-!
# Running commands

A command opens its vault, does one thing, prints what there is to print, and closes the vault.
A failing command prints nothing and says why, from the outermost cause to the innermost.
-/

namespace ObjectVault.Command

/-- Why a command failed. -/
structure Failure where
  message : String
  causes : List String := []
  deriving DecidableEq, Repr

namespace Failure

/-- The failure that an error of the vault is. -/
def ofVault (error : VaultError) : Failure :=
  ⟨error.message, (error.source?.map BackendError.message).toList⟩

/-- The failure whose cause is another one. -/
def because (message : String) (failure : Failure) : Failure :=
  ⟨message, failure.message :: failure.causes⟩

end Failure

/-- What is wrong with a hexadecimal text. A byte that is no digit is shown as the character with
its number. -/
def hexProblem : Hex.Fault → String
  | .oddLength => "Odd number of digits"
  | .invalidDigit byte index =>
    "Invalid character " ++ Quoted.char (Char.ofNat byte.toNat) ++ " at position " ++
      toString index

/-- The bytes given in hexadecimal, with white space around them. -/
def readHex (text : String) : Except Failure Bytes :=
  match Hex.decode (Bytes.ofText (Blank.trim text)) with
  | .ok bytes => .ok bytes
  | .error fault => .error (.because "expected hex input" ⟨hexProblem fault, []⟩)

/-- The configuration of the vault. -/
def configure (invocation : Invocation) : Except Failure Config := do
  let config := Config.ofText invocation.store
  match invocation.keyHex with
  | none => return config
  | some keyHex =>
    let bytes ← (readHex keyHex).mapError (Failure.because "invalid --key-hex")
    let key ← (SealingKey.ofBytes bytes).mapError Failure.ofVault
    return { config with masterKey := some key }

/-- An object in JSON with a line for every field. The values are JSON texts. -/
def jsonObject (fields : List (String × String)) : String :=
  if fields = [] then "\x7b\x7d"
  else
    let lines := fields.map fun (name, value) => "  \"" ++ name ++ "\": " ++ value
    "\x7b\n" ++ ",\n".intercalate lines ++ "\n\x7d"

/-- A text in JSON, of which no character needs an escape. -/
def jsonText (text : String) : String := "\"" ++ text ++ "\""

/-- The report on how a vault was opened. -/
def report {η : Type} (opened : Opened η) (version : UInt32) : String :=
  jsonObject
    [("recovery", jsonText opened.recovery.message),
      ("new_database", Inspect.truth opened.isNew),
      ("version", toString version.toNat)]

/-- A list of objects. -/
def listing (objects : SortedMap Handle Blob) : String :=
  jsonObject
    (objects.entries.map fun (handle, blob) =>
      (handle.message, jsonText (Hex.encode blob.payload)))

/-- An internal blob, if there is one. -/
def internalText (value : Option Bytes) : String :=
  match value with
  | some bytes => jsonText (Hex.encode bytes)
  | none => "null"

/-- A line of output. -/
def line (text : String) : String := text ++ "\n"

variable {ω σ η : Type}

/-- Whether an object can be read. The private ones are looked at only if it is not public. -/
def isReadable (services : Services ω) (handle : Handle) : Action (Vault ω) Bool := do
  let publicObjects ← Vault.loadPublic services
  if publicObjects.contains handle then
    return true
  else if ← Vault.hasMasterKey then
    let privateObjects ← Vault.loadPrivate services
    return privateObjects.contains handle
  else
    return false

/-- Does what a command says to an open vault. Answers what is printed. -/
def execute (services : Services ω) (opened : Opened η) :
    Command → Action (Vault ω) (Except Failure String)
  | .init => do
    let version ← Vault.formatVersion services
    return .ok (line (report opened version))
  | .getInternal number => do
    let value ← Vault.getInternal services number
    return .ok (line (internalText value))
  | .setInternal number hex => do
    match readHex hex with
    | .error failure => return .error failure
    | .ok bytes =>
      Vault.setInternal services number bytes
      return .ok ""
  | .insert isPrivate hex => do
    match readHex hex with
    | .error failure => return .error failure
    | .ok bytes =>
      let handle ← Vault.insert services ⟨isPrivate, bytes⟩
      return .ok (line handle.message)
  | .list isPrivate => do
    let objects ←
      if isPrivate then Vault.loadPrivate services else Vault.loadPublic services
    return .ok (line (listing objects))
  | .delete handle => do
    if ← isReadable services handle then
      Vault.delete services handle
      return .ok ""
    else
      return .error ⟨"no readable object with handle " ++ handle.message, []⟩
  | .wipe => do
    Vault.deleteAll services
    return .ok ""

/-- How a command ends. -/
inductive Result where
  | printed (out : String)
  | failed (failure : Failure)
  | panicked
  deriving DecidableEq, Repr

/-- How an action of the vault ends a command. -/
def Result.ofEnding : Ending (Except Failure String) → Result
  | .done (.ok out) => .printed out
  | .done (.error failure) => .failed failure
  | .failed error => .failed (.ofVault error)
  | .panicked => .panicked

/-- What comes of a command. -/
structure Outcome (σ : Type) where
  result : Result
  world : World σ
  nonces : NonceSupply
  journal : Journal

/-- Runs a command on a configured vault. -/
def runWith (engine : Engine σ η) (suite : Suite) (config : Config) (invocation : Invocation)
    (world : World σ) (nonces : NonceSupply) : Outcome σ :=
  match (Vault.bringUp engine config).run ⟨world, {}⟩ with
  | (.failed error, later) =>
    let failure := Failure.because ("failed to open store at " ++ invocation.store)
      (.ofVault error)
    ⟨.failed failure, later.state, nonces, later.journal⟩
  | (.panicked, later) => ⟨.panicked, later.state, nonces, later.journal⟩
  | (.done opened, later) =>
    let services := Vault.services engine suite opened.handle
    let start : Machine (Vault (World σ)) :=
      ⟨Vault.fresh config later.state nonces, later.journal⟩
    let (ending, final) := (execute services opened invocation.command).run start
    let session := final.state.session
    ⟨.ofEnding ending, engine.close opened.handle session.world, session.nonces, final.journal⟩

/-- Runs a command. -/
def run (engine : Engine σ η) (suite : Suite) (invocation : Invocation) (world : World σ)
    (nonces : NonceSupply) : Outcome σ :=
  match configure invocation with
  | .error failure => ⟨.failed failure, world, nonces, {}⟩
  | .ok config => runWith engine suite config invocation world nonces

end ObjectVault.Command
