import ObjectVault.Engine

/-!
# Engines with scripted faults

A scripted engine stands before another one and fails some of the calls: the first few that open
a database, the repairs, and calls of an open database that a list of rules picks out. A call
that fails does not reach the engine behind.
-/

namespace ObjectVault.Scripted

/-- The calls of an open database. -/
inductive CallKind where
  | get
  | put
  | delete
  | scan
  deriving DecidableEq, Repr

/-- The call in a message. -/
def CallKind.message : CallKind → String
  | .get => "get"
  | .put => "put"
  | .delete => "delete"
  | .scan => "scan"

/-- How a call fails. -/
inductive Failure where
  | error (kind : BackendError.Kind)
  | panic
  deriving DecidableEq, Repr

/-- Which calls fail. -/
structure Rule where
  call : CallKind
  /-- How the keys of these calls start. A scan has an empty key. -/
  keyPrefix : Bytes := []
  failure : Failure := .error .io
  /-- How many of these calls are let pass first. -/
  skip : Nat := 0
  /-- How many of them fail after that, if not all. -/
  times : Option Nat := none
  deriving DecidableEq, Repr

/-- Whether a rule still has something to say about a call. -/
def Rule.isAbout (rule : Rule) (call : CallKind) (key : Bytes) : Bool :=
  rule.call == call && rule.keyPrefix.isPrefixOf key && rule.times != some 0

/-- Consults the rules about a call, one after the other, until one of them fails it. A rule that
lets the call pass counts it. -/
def consult (call : CallKind) (key : Bytes) : List Rule → Option Failure × List Rule
  | [] => (none, [])
  | rule :: rest =>
    if rule.isAbout call key then
      match rule.skip with
      | 0 => (some rule.failure, { rule with times := rule.times.map (· - 1) } :: rest)
      | skip + 1 =>
        let (failure, later) := consult call key rest
        (failure, { rule with skip } :: later)
    else
      let (failure, later) := consult call key rest
      (failure, rule :: later)

/-- What becomes of a repair. -/
inductive RepairScript where
  | delegate
  /-- The repair succeeds and does nothing. -/
  | succeed
  | fail
  deriving DecidableEq, Repr

/-- What a scripted engine keeps. -/
structure State (σ : Type) where
  inner : σ
  failingOpens : Nat := 0
  rules : List Rule := []

variable {σ η α : Type}

/-- The world as the engine behind sees it. -/
def innerWorld (world : World (State σ)) : World σ := ⟨world.disk, world.engine.inner⟩

/-- The world after the engine behind has done something. -/
def outerWorld (inner : World σ) (world : World (State σ)) : World (State σ) :=
  ⟨inner.disk, { world.engine with inner := inner.engine }⟩

/-- The world with other rules. -/
def withRules (rules : List Rule) (world : World (State σ)) : World (State σ) :=
  { world with engine := { world.engine with rules } }

/-- Leaves a call to the engine behind. -/
def pass (request : World σ → α × World σ) (world : World (State σ)) : α × World (State σ) :=
  let (answer, inner) := request (innerWorld world)
  (answer, outerWorld inner world)

/-- How a failed call ends. -/
def Failure.reply (failure : Failure) (call : CallKind) : Reply α :=
  match failure with
  | .error kind => .failed ⟨kind, "scripted " ++ call.message ++ " failure"⟩
  | .panic => .panicked

/-- Fails a call if a rule says so, and otherwise leaves it to the engine behind. -/
def check (call : CallKind) (key : Bytes) (failed : Failure → α)
    (request : World σ → α × World σ) (world : World (State σ)) : α × World (State σ) :=
  let (failure, rules) := consult call key world.engine.rules
  let world := withRules rules world
  match failure with
  | some failure => (failed failure, world)
  | none => pass request world

/-- The calls of an open database, with faults. -/
def faulty (backend : Backend (World σ)) : Backend (World (State σ)) where
  get key := check .get key (Failure.reply · .get) (backend.get key)
  put key value durability :=
    check .put key (Failure.reply · .put) (backend.put key value durability)
  delete key durability :=
    check .delete key (Failure.reply · .delete) (backend.delete key durability)
  scan := check .scan [] (fun failure => ⟨[], failure.reply .scan⟩) backend.scan

/-- Opens a database unless the script says that it does not open. -/
def openAt (engine : Engine σ η) (location : Location) (options : OpenOptions)
    (world : World (State σ)) : Except BackendError η × World (State σ) :=
  match world.engine.failingOpens with
  | 0 => pass (engine.openAt location options) world
  | failingOpens + 1 =>
    (.error ⟨.corrupted, "scripted open failure"⟩,
      { world with engine := { world.engine with failingOpens } })

/-- Repairs a database as the script says. -/
def repair (engine : Engine σ η) (script : RepairScript) (location : Location)
    (world : World (State σ)) : Repair × World (State σ) :=
  match script with
  | .delegate => pass (engine.repair location) world
  | .succeed => (⟨.ok (), []⟩, world)
  | .fail => (⟨.error ⟨.corrupted, "scripted repair failure"⟩, []⟩, world)

/-- An engine with scripted faults before another one. -/
def scripted (engine : Engine σ η) (supportsMemory : Bool) (script : RepairScript) :
    Engine (State σ) η where
  supportsMemory := supportsMemory
  openAt := openAt engine
  repair := repair engine script
  close handle world := outerWorld (engine.close handle (innerWorld world)) world
  backend handle := faulty (engine.backend handle)

end ObjectVault.Scripted
