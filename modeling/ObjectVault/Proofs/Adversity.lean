import ObjectVault.Config
import ObjectVault.Engine.Scripted
import ObjectVault.Proofs.Conduct.Metadata

/-!
# A database in adverse circumstances

One database, which keeps what is stored in it when it is closed and opened again. Every call of it
may fail or panic, and has no effect then; every attempt to open or to repair it may fail. Which
ones do is up to an `Adversity`, about which nothing is said. Each call is put on record together
with the table that it met, so that the record shows what was in the database at every moment at
which its user may have stopped.
-/

namespace ObjectVault

/-- What becomes of a call of a database. -/
inductive Fate where
  | works
  /-- It answers an error. A scan has visited the first few entries. -/
  | fails (error : BackendError) (visited : Nat)
  | panics (visited : Nat)
  deriving DecidableEq, Repr

namespace Fate

/-- The reply to a call that would answer a value. -/
def reply {α : Type} (value : α) : Fate → Reply α
  | .works => .done value
  | .fails error _ => .failed error
  | .panics _ => .panicked

/-- What a scan of some entries shows. -/
def scan (entries : List (Bytes × Bytes)) : Fate → Scan
  | .works => ⟨entries, .done ()⟩
  | .fails error visited => ⟨entries.take visited, .failed error⟩
  | .panics visited => ⟨entries.take visited, .panicked⟩

end Fate

/-- What goes wrong with a database. -/
structure Adversity where
  /-- The fate of a call, by the number of calls before it, its kind and its key. A scan has an
  empty key. -/
  fate : Nat → Scripted.CallKind → Bytes → Fate
  /-- The error of an attempt to open or to repair, by the number of attempts before it. -/
  obstacle : Nat → Option BackendError

/-- Whether nothing goes wrong with a database. -/
structure Adversity.Harmless (adversity : Adversity) : Prop where
  fate : ∀ calls kind key, adversity.fate calls kind key = .works
  obstacle : ∀ attempts, adversity.obstacle attempts = none

/-- The adversity in which nothing goes wrong. -/
def Adversity.absent : Adversity where
  fate _ _ _ := .works
  obstacle _ := none

/-- Where nothing goes wrong nothing does any harm. -/
theorem Adversity.harmless_absent : absent.Harmless := ⟨fun _ _ _ => rfl, fun _ => rfl⟩

/-- What is in a database, and what happened to it. -/
structure History where
  table : Table := ∅
  /-- The calls so far, each with the table that it met. -/
  record : List Entry := []

namespace History

/-- What has been in the database at any time, the last of it at the end. -/
def contents (history : History) : List Table :=
  history.record.map Entry.before ++ [history.table]

/-- The history after some exchanges. -/
def making (history : History) (exchanges : List Exchange) : History where
  table := Exchange.afterAll exchanges history.table
  record := history.record ++ Exchange.entries exchanges history.table

@[simp] theorem making_nil (history : History) : history.making [] = history := by
  simp [making, Exchange.afterAll, Exchange.entries]

theorem making_cons (history : History) (exchange : Exchange) (rest : List Exchange) :
    history.making (exchange :: rest) = (history.making [exchange]).making rest := by
  simp [making, Exchange.afterAll, Exchange.entries]

/-- What holds of the contents so far and throughout some exchanges holds of the contents after
them. -/
theorem forall_contents_making {property : Table → Prop} {history : History}
    {exchanges : List Exchange} (so_far : ∀ table ∈ history.contents, property table)
    (throughout : Exchange.Throughout property exchanges history.table) :
    ∀ table ∈ (history.making exchanges).contents, property table := by
  intro table member
  simp only [contents, making, List.map_append, List.append_assoc, List.mem_append] at member
  rcases member with early | late | last
  · exact so_far table (List.mem_append_left _ early)
  · obtain ⟨entry, member, rfl⟩ := List.mem_map.1 late
    exact throughout.of_mem_entries member
  · rw [List.mem_singleton.1 last]
    exact throughout.after

end History

/-- What an engine keeps that has one database. -/
structure Storage where
  history : History := {}
  attempts : Nat := 0

namespace Adversity

variable (adversity : Adversity)

/-- The fate of a call that is made in a world. -/
def fateIn (world : World Storage) (kind : Scripted.CallKind) (key : Bytes) : Fate :=
  adversity.fate world.engine.history.record.length kind key

/-- The world after an exchange. -/
def note (world : World Storage) (exchange : Exchange) : World Storage :=
  { world with engine.history := world.engine.history.making [exchange] }

/-- The calls of the database. -/
def backend : Backend (World Storage) where
  get key world :=
    let reply := (adversity.fateIn world .get key).reply (world.engine.history.table.get? key)
    (reply, note world (.get key reply))
  put key value durability world :=
    let reply := (adversity.fateIn world .put key).reply ()
    (reply, note world (.put key value durability reply))
  delete key durability world :=
    let reply := (adversity.fateIn world .delete key).reply ()
    (reply, note world (.delete key durability reply))
  scan world :=
    let seen := (adversity.fateIn world .scan []).scan world.engine.history.table.entries
    (seen, note world (.scan seen))

/-- What comes of an attempt to open or to repair the database. -/
def attempt (world : World Storage) : Except BackendError Unit × World Storage :=
  let result :=
    match adversity.obstacle world.engine.attempts with
    | some error => .error error
    | none => .ok ()
  (result, { world with engine.attempts := world.engine.attempts + 1 })

/-- The engine of the database, which is the same wherever it is looked for. -/
def engine (supportsMemory : Bool) : Engine Storage Unit where
  supportsMemory := supportsMemory
  openAt _ _ world := adversity.attempt world
  repair _ world := (⟨(adversity.attempt world).1, []⟩, (adversity.attempt world).2)
  close _ world := world
  backend _ := adversity.backend

/-- A reply is what a database with the table may give. -/
theorem truthful_scan (fate : Fate) (table : Table) :
    (Exchange.scan (fate.scan table.entries)).Truthful table := by
  cases fate with
  | works => exact ⟨List.prefix_rfl, fun _ => rfl⟩
  | fails error visited => exact ⟨List.take_prefix _ _, by simp [Fate.scan]⟩
  | panics visited => exact ⟨List.take_prefix _ _, by simp [Fate.scan]⟩

/-- A read that works answers what is in the table, and any other one answers nothing about it. -/
theorem truthful_get (fate : Fate) (table : Table) (key : Bytes) :
    (Exchange.get key (fate.reply (table.get? key))).Truthful table := by
  cases fate <;> simp [Fate.reply, Exchange.Truthful]

/-- Whether a database in the adversity may answer some calls so. -/
structure Yields (exchanges : List Exchange) (table : Table) : Prop where
  truthful : Exchange.AllTruthful exchanges table
  succeed : adversity.Harmless → ∀ exchange ∈ exchanges, exchange.Succeeds

variable {adversity}

theorem yields_nil (table : Table) : adversity.Yields [] table :=
  ⟨trivial, fun _ _ member => nomatch member⟩

/-- The first exchange may be put in front of those that follow it. -/
theorem Yields.cons {exchange : Exchange} {rest : List Exchange} {table : Table}
    (truthful : exchange.Truthful table) (succeeds : adversity.Harmless → exchange.Succeeds)
    (yields : adversity.Yields rest (exchange.after table)) :
    adversity.Yields (exchange :: rest) table where
  truthful := ⟨truthful, yields.truthful⟩
  succeed := by
    intro harmless other member
    rcases List.mem_cons.1 member with rfl | later
    · exact succeeds harmless
    · exact yields.succeed harmless other later

/-- In a harmless adversity every call works. -/
theorem Harmless.fateIn (harmless : adversity.Harmless) (world : World Storage)
    (kind : Scripted.CallKind) (key : Bytes) : adversity.fateIn world kind key = .works :=
  harmless.fate _ _ _

variable (adversity)

/-- The exchanges with the database are put on record, and are such as it yields. -/
theorem makes_backend {world later : World Storage} {exchanges : List Exchange}
    (makes : adversity.backend.Makes world exchanges later) :
    adversity.Yields exchanges world.engine.history.table ∧
      later = { world with engine.history := world.engine.history.making exchanges } := by
  induction makes with
  | nothing => exact ⟨yields_nil _, by simp⟩
  | get key _ ih =>
    obtain ⟨yields, rfl⟩ := ih
    refine ⟨.cons (truthful_get _ _ _) ?_ yields, by rw [History.making_cons]; rfl⟩
    intro harmless
    simp [Exchange.Succeeds, backend, harmless.fateIn, Fate.reply]
  | put key value durability _ ih =>
    obtain ⟨yields, rfl⟩ := ih
    refine ⟨.cons trivial ?_ yields, by rw [History.making_cons]; rfl⟩
    intro harmless
    simp [Exchange.Succeeds, backend, harmless.fateIn, Fate.reply]
  | delete key durability _ ih =>
    obtain ⟨yields, rfl⟩ := ih
    refine ⟨.cons trivial ?_ yields, by rw [History.making_cons]; rfl⟩
    intro harmless
    simp [Exchange.Succeeds, backend, harmless.fateIn, Fate.reply]
  | scan _ ih =>
    obtain ⟨yields, rfl⟩ := ih
    refine ⟨.cons (truthful_scan _ _) ?_ yields, by rw [History.making_cons]; rfl⟩
    intro harmless
    simp [Exchange.Succeeds, backend, harmless.fateIn, Fate.scan]

end Adversity

end ObjectVault
