import ObjectVault.Proofs.Conduct.Recovery
import ObjectVault.Proofs.Hex
import ObjectVault.Proofs.Resting
import ObjectVault.Proofs.SealingKey
import ObjectVault.Proofs.Serving
import ObjectVault.Proofs.Shelf

/-!
# Commands on a shelf

Every command opens the vault for itself, with nothing in mind, and closes it again, so that what
one command leaves for the next is in the database alone. What comes of a series of commands is
nevertheless what comes of it on a shelf (`Command.AsOnShelf`), whichever engine keeps the database.
A command on an open vault does what it does to the shelf that shows what the vault holds
(`Command.execute_asOnShelf`), a run of it from a database at rest leaves the database at rest again
(`Command.run_of_rests`), and the rest follows by induction.
-/

namespace ObjectVault

open Exchange Command

namespace Plain

variable {plain : Plain} {key : SealingKey} {isPrivate : Bool} {handle : Handle}

/-- Whether a key is the master key, and opens all private objects. -/
structure Opens (key : SealingKey) (plain : Plain) : Prop where
  masterKey : plain.masterKey = some key
  /-- All private objects are sealed under the key. -/
  sealed : ∀ handle object, plain.objects.get? handle = some object →
    object.isPrivate = true → object.sealedUnder = key

/-- The objects of a privacy are all readable. -/
theorem Opens.readable_eq (opens : plain.Opens key) (isPrivate : Bool) :
    plain.readable isPrivate = plain.objects.filterMap fun object =>
      if object.isPrivate = isPrivate then some ⟨isPrivate, object.payload⟩ else none := by
  apply SortedMap.ext_get?
  intro handle
  rw [readable, SortedMap.get?_filterMap, SortedMap.get?_filterMap]
  cases found : plain.objects.get? handle with
  | none => rfl
  | some object =>
    simp only [Option.bind_some]
    by_cases privacy : object.isPrivate = isPrivate
    · subst privacy
      have opened (isPrivate : object.isPrivate = true) :
          plain.masterKey = some object.sealedUnder := by
        rw [opens.masterKey, opens.sealed handle object found isPrivate]
      rw [if_pos ⟨rfl, opened⟩, if_pos rfl]
    · rw [if_neg privacy, if_neg fun fits => privacy fits.1]

/-- Every object is readable as a public or as a private one. -/
theorem Opens.contains_eq (opens : plain.Opens key) (handle : Handle) :
    plain.objects.contains handle =
      ((plain.readable false).contains handle || (plain.readable true).contains handle) := by
  simp only [opens.readable_eq, SortedMap.contains, SortedMap.get?_filterMap]
  cases plain.objects.get? handle with
  | none => rfl
  | some object => cases privacy : object.isPrivate <;> simp [privacy]

/-- What has been loaded is known. -/
theorem isSome_known_load (readable : (plain.readable isPrivate).contains handle = true) :
    ((plain.load isPrivate).2.known.get? handle).isSome = true := by
  obtain ⟨blob, found⟩ := Option.isSome_iff_exists.1 readable
  have member : (handle, Category.ofPrivacy isPrivate) ∈
      (plain.readable isPrivate).entries.map fun entry => (entry.1, .ofPrivacy isPrivate) :=
    List.mem_map.2 ⟨(handle, blob), SortedMap.get?_eq_some_iff.1 found, rfl⟩
  rw [load, SortedMap.get?_insertAll_of_mem member]
  · rfl
  · intro other alsoMember
    obtain ⟨_, _, same⟩ := List.mem_map.1 alsoMember
    exact (Prod.mk.inj same).2.symm

end Plain

namespace Command

/-- What was read from a text is written as the text is spelt. -/
theorem encode_of_readHex {hex : String} {bytes : Bytes} (reads : readHex hex = .ok bytes) :
    Hex.encode bytes = spelling hex := by
  simp only [readHex] at reads
  split at reads
  · next decodes =>
    cases reads
    exact Hex.encode_of_decode decodes
  · cases reads

end Command

namespace Shelf

/-- The shelf that shows what a plain vault holds. -/
def ofPlain (plain : Plain) : Shelf where
  isNew := false
  next := plain.next
  objects := plain.objects.filterMap fun object =>
    some ⟨object.isPrivate, Hex.encode object.payload⟩
  internal := plain.internal.filterMap fun value => some (Hex.encode value)

variable {plain : Plain} {key : SealingKey}

/-- The readable objects of a privacy are listed as they are on the shelf. -/
theorem listing_ofPlain (opens : plain.Opens key) (isPrivate : Bool) :
    (ofPlain plain).listing isPrivate = Command.listing (plain.readable isPrivate) := by
  rw [opens.readable_eq, listing, Command.listing]
  congr 1
  simp only [ofPlain, SortedMap.filterMap]
  induction plain.objects.entries with
  | nil => rfl
  | cons entry rest ih =>
    by_cases privacy : entry.2.isPrivate = isPrivate <;> simp_all

@[simp] theorem next_ofPlain (plain : Plain) : (ofPlain plain).next = plain.next := rfl

theorem contains_ofPlain (plain : Plain) (handle : Handle) :
    (ofPlain plain).objects.contains handle = plain.objects.contains handle := by
  simp only [ofPlain, SortedMap.contains, SortedMap.get?_filterMap]
  cases plain.objects.get? handle <;> rfl

/-- An internal blob is printed as it was given. -/
theorem internalText_ofPlain (plain : Plain) (number : UInt32) :
    (((ofPlain plain).internal.get? number).map jsonText).getD "null" =
      internalText (plain.internal.get? number) := by
  simp only [ofPlain, SortedMap.get?_filterMap]
  cases plain.internal.get? number <;> rfl

/-- An object that the cipher takes is stored. -/
theorem insert_ofPlain {isPrivate : Bool} {hex : String} {payload : Bytes}
    (keyed : plain.Keyed isPrivate) (reads : readHex hex = .ok payload)
    (fits : Aead.fits payload.length = true) :
    (ofPlain plain).insert isPrivate hex =
      (.ofEnding ((plain.insert ⟨isPrivate, payload⟩).1.map fun handle =>
          .ok (line handle.message)),
        ofPlain (plain.insert ⟨isPrivate, payload⟩).2) := by
  simp only [insert, reads, next_ofPlain, Plain.insert, if_neg keyed.not_keyless, if_pos fits]
  by_cases last : plain.next = Metadata.lastNumber
  · simp only [if_pos last]
    rfl
  · simp only [if_neg last, ofPlain, Plain.store]
    rw [SortedMap.filterMap_insert, encode_of_readHex reads]
    rfl

/-- The handle of an object that the cipher refuses is spent. -/
theorem insert_ofPlain_of_large {isPrivate : Bool} {hex : String} {payload : Bytes}
    (reads : readHex hex = .ok payload) (large : Aead.fits payload.length = false) :
    (ofPlain plain).insert isPrivate hex =
      (.ofEnding (plain.spend.1.map fun handle => .ok (line handle.message)),
        ofPlain plain.spend.2) := by
  simp only [insert, reads, next_ofPlain, Plain.spend, large, Bool.false_eq_true, if_false]
  by_cases last : plain.next = Metadata.lastNumber
  · simp only [if_pos last]
    rfl
  · simp only [if_neg last]
    rfl

/-- What is stored on the shelf is what the plain vault stores. -/
theorem note_ofPlain {number : UInt32} {hex : String} {value : Bytes}
    (reads : readHex hex = .ok value) :
    (ofPlain plain).note number hex =
      (.printed "", ofPlain { plain with internal := plain.internal.insert number value }) := by
  simp only [note, reads, ofPlain]
  rw [SortedMap.filterMap_insert, encode_of_readHex reads]

end Shelf

namespace Command

variable {ω η : Type} {footing : Footing ω} {plain : Plain} {key : SealingKey}

/-- Whether an object can be read is found out by loading the objects, which are known then. -/
theorem isReadable_serves (footing : Footing ω) (opens : plain.Opens key) (handle : Handle) :
    ∃ known, footing.Serves (isReadable footing.services handle) plain
        (.done (plain.objects.contains handle)) { plain with known } ∧
      (plain.objects.contains handle = true → (known.get? handle).isSome = true) := by
  have first := footing.serves_loadPublic plain
  cases isPublic : (plain.readable false).contains handle with
  | true =>
    have contained : plain.objects.contains handle = true := by
      rw [opens.contains_eq, isPublic, Bool.true_or]
    refine ⟨_, first.bind ?_, fun _ => Plain.isSome_known_load isPublic⟩
    simp only [Plain.load, isPublic, if_true, contained]
    exact .pure true
  | false =>
    have contained : plain.objects.contains handle = (plain.readable true).contains handle := by
      rw [opens.contains_eq, isPublic, Bool.false_or]
    have keyed : (plain.load false).2.masterKey = some key := opens.masterKey
    have asked := footing.serves_hasMasterKey (plain.load false).2
    rw [keyed] at asked
    have second : footing.Serves (Vault.loadPrivate footing.services) (plain.load false).2 _ _ :=
      footing.serves_loadPrivate (by simp [keyed])
    refine ⟨((plain.load false).2.load true).2.known, first.bind ?_, fun isThere => ?_⟩
    · simp only [Plain.load, isPublic, Bool.false_eq_true, if_false]
      refine asked.bind ?_
      simp only [Option.isSome_some, if_true]
      refine second.bind ?_
      rw [contained]
      exact .pure _
    · rw [contained] at isThere
      exact Plain.isSome_known_load isThere

/-- The payload that a command brings, if the cipher takes it. -/
def payloads : Command → List Bytes
  | .insert _ hex =>
    match readHex hex with
    | .ok payload => if Aead.fits payload.length then [payload] else []
    | .error _ => []
  | _ => []

/-- Whether a command on an open vault comes to what it comes to on the shelf that shows what the
vault holds. -/
def DoesAsOnShelf (footing : Footing ω) (opened : Opened η) (plain : Plain) (command : Command) :
    Prop :=
  ∃ ending after, footing.Serves (execute footing.services opened command) plain ending after ∧
    ({ Shelf.ofPlain plain with isNew := opened.isNew } : Shelf).carryOut command =
      (.ofEnding ending, .ofPlain after)

section Execution

variable (footing : Footing ω) (opened : Opened η) (opens : plain.Opens key)
include opens

/-- An insertion prints what it does on the shelf, also if the payload is too long. -/
theorem insert_asOnShelf (standard : footing.services.suite = .standard) {isPrivate : Bool}
    {hex : String} (used : ∀ payload ∈ payloads (.insert isPrivate hex),
      payload ∈ footing.circumstances.payloads) :
    DoesAsOnShelf footing opened plain (.insert isPrivate hex) := by
  have keyed : plain.Keyed isPrivate := fun _ => by rw [opens.masterKey]; rfl
  simp only [DoesAsOnShelf, execute, Shelf.carryOut]
  cases reads : readHex hex with
  | error failure =>
    refine ⟨_, _, .pure _, ?_⟩
    simp only [Shelf.insert, reads]
    rfl
  | ok payload =>
    cases fits : Aead.fits payload.length with
    | true =>
      have isUsed : payload ∈ footing.circumstances.payloads :=
        used payload (by simp [payloads, reads, fits])
      exact ⟨_, _, (footing.serves_insert plain isUsed).map _,
        Shelf.insert_ofPlain keyed reads fits⟩
    | false =>
      have refuses : footing.services.suite.Refuses payload := by
        rw [standard]
        exact Suite.refuses_standard fits
      exact ⟨_, _, (footing.serves_insert_refused keyed refuses).map _,
        Shelf.insert_ofPlain_of_large reads fits⟩

/-- A deletion prints what it does on the shelf. -/
theorem delete_asOnShelf (handle : Handle) :
    DoesAsOnShelf footing opened plain (.delete handle) := by
  obtain ⟨known, reads, isKnown⟩ := isReadable_serves footing opens handle
  simp only [DoesAsOnShelf, execute, Shelf.carryOut, Shelf.delete]
  have same : (Shelf.touched { Shelf.ofPlain plain with isNew := opened.isNew }).objects.contains
      handle = plain.objects.contains handle := Shelf.contains_ofPlain plain handle
  rw [same]
  cases contained : plain.objects.contains handle with
  | false =>
    rw [contained] at reads
    exact ⟨_, _, reads.bind (.pure _), rfl⟩
  | true =>
    rw [contained] at reads
    obtain ⟨category, isKnown⟩ := Option.isSome_iff_exists.1 (isKnown contained)
    refine ⟨_, _, reads.bind ((footing.serves_delete _ handle).bind (.pure _)), ?_⟩
    simp only [Plain.delete, isKnown, if_true, Shelf.ofPlain, SortedMap.filterMap_erase]
    rfl

/-- A command on an open vault comes to what it comes to on the shelf. -/
theorem execute_asOnShelf (standard : footing.services.suite = .standard)
    (direct : opened.recovery = .opened) (command : Command)
    (used : ∀ payload ∈ command.payloads, payload ∈ footing.circumstances.payloads) :
    DoesAsOnShelf footing opened plain command := by
  cases command with
  | init =>
    refine ⟨_, _, (footing.serves_formatVersion plain).bind (.pure _), ?_⟩
    simp only [Shelf.carryOut, report, direct]
    rfl
  | insert isPrivate hex => exact insert_asOnShelf footing opened opens standard used
  | list isPrivate =>
    have lists := Shelf.listing_ofPlain opens isPrivate
    cases isPrivate with
    | false =>
      refine ⟨_, _, (footing.serves_loadPublic plain).bind (.pure _), ?_⟩
      exact congrArg (fun listed => (Result.printed (line listed), Shelf.ofPlain plain)) lists
    | true =>
      have keyed : plain.masterKey ≠ none := by simp [opens.masterKey]
      refine ⟨_, _, (footing.serves_loadPrivate keyed).bind (.pure _), ?_⟩
      exact congrArg (fun listed => (Result.printed (line listed), Shelf.ofPlain plain)) lists
  | delete handle => exact delete_asOnShelf footing opened opens handle
  | wipe => exact ⟨_, _, (footing.serves_deleteAll plain).bind (.pure _), rfl⟩
  | setInternal number hex =>
    simp only [DoesAsOnShelf, execute, Shelf.carryOut]
    cases reads : readHex hex with
    | error failure =>
      refine ⟨_, _, .pure _, ?_⟩
      simp only [Shelf.note, reads]
      rfl
    | ok value =>
      exact ⟨_, _, (footing.serves_setInternal plain number value).bind (.pure _),
        Shelf.note_ofPlain reads⟩
  | getInternal number =>
    refine ⟨_, _, (footing.serves_getInternal plain number).bind (.pure _), ?_⟩
    simp only [Shelf.carryOut, Shelf.internalText_ofPlain]
    rfl

end Execution

end Command

namespace Recovery

variable {σ η : Type} {engine : Engine σ η} {layout : Option Layout} {location : Location}
  {world opened later : World σ} {errors : List BackendError} {ending : Ending (η × Recovery)}

/-- A database that opens is opened in the first stage. -/
theorem Staging.of_opens {handle : η}
    (opens : engine.openAt location {} world = (.ok handle, opened))
    (staging : Staging engine layout location world errors ending later) :
    ending = .done (handle, .opened) ∧ later = opened := by
  cases staging with
  | opened alsoOpens =>
    rw [opens] at alsoOpens
    cases alsoOpens
    exact ⟨rfl, rfl⟩
  | repaired fails | recreated fails | lost fails =>
    rw [opens] at fails
    cases fails

end Recovery

/-- A database that nobody uses is brought up if its metadata is read or written. -/
theorem Engine.Keeping.bringUp {σ η : Type} {engine : Engine σ η} {root : String}
    (keeping : engine.Keeping ⟨root⟩) {config : Config} {table : Table}
    (location : config.location = .directory root) (machine : Machine (World σ))
    (rests : keeping.Rests table machine.state) :
    ∃ handle exchanges ending, Metadata.Initializing exchanges ending ∧
      AllTruthful exchanges table ∧ (∀ exchange ∈ exchanges, exchange.Succeeds) ∧
      ∀ isNew, ending = .done isNew → ∃ later,
        (Vault.bringUp engine config).run machine = (.done ⟨handle, .opened, isNew⟩, later) ∧
        keeping.InUse handle (afterAll exchanges table) later.state := by
  obtain ⟨handle, opened, opens, inUse⟩ := keeping.opens rests
  obtain ⟨errors, bringing⟩ := Recovery.bringUp_conduct engine config.sink config.location machine
  rw [Vault.bringUp]
  rw [location] at bringing ⊢
  generalize (Recovery.bringUp engine config.sink (.directory root)).run machine = outcome
    at bringing ⊢
  obtain ⟨ending, ⟨later, journal⟩⟩ := outcome
  cases bringing with
  | unsupported inMemory => cases inMemory
  | unopened staging => cases (staging.of_opens opens).1
  | @opened _ _ recovery middle exchanges isNew _ staging makes initializing =>
    obtain ⟨same, rfl⟩ := staging.of_opens opens
    cases same
    obtain ⟨truthful, succeed, after⟩ := keeping.works inUse makes
    refine ⟨handle, exchanges, _, initializing, truthful, succeed, ?_⟩
    rintro _ ⟨⟩
    exact ⟨_, rfl, after⟩
  | @closed _ _ recovery middle exchanges ending _ staging makes initializing failing =>
    obtain ⟨same, rfl⟩ := staging.of_opens opens
    cases same
    obtain ⟨truthful, succeed, _⟩ := keeping.works inUse makes
    exact ⟨handle, exchanges, _, initializing, truthful, succeed, fun isNew done =>
      absurd done (failing isNew)⟩

namespace Command

/-- What comes of some commands, each of which opens the vault at a store for itself and closes it
again. -/
def resultsAt {σ η : Type} (engine : Engine σ η) (suite : Suite) (store keyHex : String) :
    List Command → World σ → NonceSupply → List Result
  | [], _, _ => []
  | command :: rest, world, nonces =>
    let outcome := run engine suite ⟨store, some keyHex, command⟩ world nonces
    outcome.result :: resultsAt engine suite store keyHex rest outcome.world outcome.nonces

variable {σ η : Type} {engine : Engine σ η} {layout : Layout} {circumstances : Circumstances}
  {key : SealingKey} {shelf : Shelf} {plain : Plain}

/-- Whether a store is between two commands as a shelf says. -/
inductive Rests (keeping : engine.Keeping layout) (circumstances : Circumstances)
    (nonces : NonceSupply) (world : World σ) : Shelf → Prop where
  | new (rests : keeping.Rests ∅ world) (stream : nonces.nonce = circumstances.nonce) :
      Rests keeping circumstances nonces world {}
  | used {plain : Plain} {memory : Memory} {table : Table} (rests : keeping.Rests table world)
      (mirrors : Plain.Mirrors circumstances plain memory table)
      (drawn : memory.nonces = nonces) :
      Rests keeping circumstances nonces world (.ofPlain plain)

/-- The vault is opened at the first attempt, and there is nothing in mind then. -/
theorem Rests.bringUp {config : Config} {root : String} {keeping : engine.Keeping ⟨root⟩}
    {nonces : NonceSupply} {world : World σ}
    (rests : Rests keeping circumstances nonces world shelf)
    (location : config.location = .directory root) (isUsed : key ∈ circumstances.keys) :
    ∃ handle later plain table,
      (Vault.bringUp engine config).run ⟨world, {}⟩ =
        (.done ⟨handle, .opened, shelf.isNew⟩, later) ∧
      shelf = { Shelf.ofPlain plain with isNew := shelf.isNew } ∧
      keeping.InUse handle table later.state ∧
      Plain.Mirrors circumstances plain ⟨nonces, some key, ∅⟩ table := by
  have areUsed (other : SealingKey) (same : some key = some other) :
      other ∈ circumstances.keys := Option.some.inj same ▸ isUsed
  cases rests with
  | new rests stream =>
    obtain ⟨handle, exchanges, ending, initializing, truthful, succeed, done⟩ :=
      keeping.bringUp location ⟨world, {}⟩ rests
    obtain ⟨isNew, ready, unused⟩ := initializing.of_blank Table.blank_empty truthful succeed
    obtain ⟨later, run, inUse⟩ := done true isNew
    exact ⟨handle, later, _, _, run, rfl, inUse, .fresh ready unused stream areUsed⟩
  | @used plain memory table rests mirrors drawn =>
    obtain ⟨handle, exchanges, ending, initializing, truthful, succeed, done⟩ :=
      keeping.bringUp location ⟨world, {}⟩ rests
    obtain ⟨isOld, same⟩ := initializing.of_ready mirrors.storedIn.ready truthful succeed
    obtain ⟨later, run, inUse⟩ := done false isOld
    rw [same] at inUse
    subst drawn
    exact ⟨handle, later, { plain with masterKey := some key, known := ∅ }, table, run, rfl, inUse,
      mirrors.reopened areUsed⟩

/-- What some commands with the same key bring to the cipher. -/
def circumstancesOf (key : SealingKey) (nonces : NonceSupply) (commands : List Command) :
    Circumstances where
  suite := .standard
  nonce := nonces.nonce
  keys := [key]
  payloads := commands.flatMap payloads

/-- A payload that is in use is not too long for the cipher. -/
theorem fits_of_mem_payloads {command : Command} {payload : Bytes}
    (member : payload ∈ command.payloads) : Aead.fits payload.length = true := by
  unfold payloads at member
  split at member
  · split at member
    · split at member
      · next fits => rwa [List.mem_singleton.1 member]
      · cases member
    · cases member
  · cases member

/-- The standard cipher serves commands with the same key well. -/
theorem fair_circumstancesOf (key : SealingKey) (nonces : NonceSupply) (commands : List Command) :
    (circumstancesOf key nonces commands).Fair where
  undoes := Suite.undoes_standard
  accepts := by
    intro payload used
    obtain ⟨command, _, member⟩ := List.mem_flatMap.1 used
    exact Suite.accepts_standard (fits_of_mem_payloads member)
  apart := by
    intro first used second alsoUsed differs
    rw [List.mem_singleton.1 used, List.mem_singleton.1 alsoUsed] at differs
    exact absurd rfl differs

/-- What a vault on the database of a store runs on. -/
def onStore (keeping : engine.Keeping layout) (handle : η) (key : SealingKey)
    (nonces : NonceSupply) (commands : List Command) : Footing (World σ) where
  services := Vault.services engine .standard handle
  circumstances := circumstancesOf key nonces commands
  Has := keeping.InUse handle
  suite := rfl
  fair := fair_circumstancesOf key nonces commands
  works := keeping.works

/-- The master key in use opens all private objects. -/
theorem opens_of_mirrors {nonces : NonceSupply} {commands : List Command} {memory : Memory}
    {table : Table} (masterKey : memory.masterKey = some key)
    (mirrors : Plain.Mirrors (circumstancesOf key nonces commands) plain memory table) :
    plain.Opens key where
  masterKey := by rw [← mirrors.masterKey, masterKey]
  sealed handle object found isPrivate :=
    List.mem_singleton.1 ((mirrors.storedIn.regular handle object found).privateKey isPrivate)

/-- How a vault at a store is opened with a key. -/
def configAt (store : String) (key : SealingKey) : Config where
  location := .directory store
  masterKey := some key

/-- A command with a store and a key that can be read is configured with both. -/
theorem configure_eq {store keyHex : String} (named : store ≠ Location.memoryMarker)
    (readsKey : readHex keyHex = .ok key.bytes) (command : Command) :
    configure ⟨store, some keyHex, command⟩ = .ok (configAt store key) := by
  have fits : SealingKey.ofBytes key.bytes = .ok key :=
    SealingKey.ofBytes_eq_ok_iff.2 ⟨key.length_eq, rfl⟩
  have location : Location.ofText store = .directory store := if_neg named
  simp only [configure, readsKey, Except.mapError, bind, Except.bind, fits, Config.ofText, location]
  rfl

section Runs

variable {store keyHex : String} {keeping : engine.Keeping ⟨store⟩} {supply : NonceSupply}
  {all : List Command} (named : store ≠ Location.memoryMarker)
  (readsKey : readHex keyHex = .ok key.bytes)
include named readsKey

/-- A run of a command comes to what it comes to on the shelf, and leaves the store at rest. -/
theorem run_of_rests {nonces : NonceSupply} {world : World σ}
    (rests : Rests keeping (circumstancesOf key supply all) nonces world shelf)
    {command : Command} (isOne : command ∈ all) {outcome : Outcome σ}
    (runs : run engine .standard ⟨store, some keyHex, command⟩ world nonces = outcome) :
    outcome.result = (shelf.carryOut command).1 ∧
      Rests keeping (circumstancesOf key supply all) outcome.nonces outcome.world
        (shelf.carryOut command).2 := by
  have location : (configAt store key).location = .directory store := rfl
  obtain ⟨handle, later, plain, table, brought, shows, inUse, mirrors⟩ :=
    rests.bringUp location (List.mem_singleton.2 rfl)
  let opened : Opened η := ⟨handle, .opened, shelf.isNew⟩
  have used (payload : Bytes) (member : payload ∈ command.payloads) :
      payload ∈ (circumstancesOf key supply all).payloads :=
    List.mem_flatMap.2 ⟨command, isOne, member⟩
  obtain ⟨ending, after, serves, carried⟩ := execute_asOnShelf
    (onStore keeping handle key supply all) opened (opens_of_mirrors rfl mirrors) rfl rfl command
    used
  obtain ⟨ends, _, table, inUse, mirrors⟩ := serves
    ⟨Vault.fresh (configAt store key) later.state nonces, later.journal⟩
    ⟨rfl, table, inUse, mirrors⟩
  have shelfIs : { Shelf.ofPlain plain with isNew := opened.isNew } = shelf := shows.symm
  rw [shelfIs] at carried
  simp only [run, configure_eq named readsKey, runWith, brought] at runs
  subst runs
  rw [carried]
  exact ⟨congrArg Result.ofEnding ends, .used (keeping.closes inUse) mirrors rfl⟩

/-- What comes of commands on a store at rest is what comes of them on the shelf. -/
theorem resultsAt_of_rests {commands : List Command} {nonces : NonceSupply} {world : World σ}
    (rests : Rests keeping (circumstancesOf key supply all) nonces world shelf)
    (areSome : ∀ command ∈ commands, command ∈ all) :
    resultsAt engine .standard store keyHex commands world nonces = shelf.results commands := by
  induction commands generalizing shelf nonces world with
  | nil => rfl
  | cons command rest ih =>
    rw [List.forall_mem_cons] at areSome
    obtain ⟨same, rests⟩ := run_of_rests named readsKey rests areSome.1 rfl
    rw [resultsAt, Shelf.results, same, ih rests areSome.2]

end Runs

/-- Whether what comes of commands, as `outcomes` says, is what comes of them on a shelf. Only an
object that is too long for the cipher is refused at the cost of its handle. -/
structure AsOnShelf (outcomes : List Command → List Result) : Prop where
  /-- Everything that is printed and every failure is as on a shelf that is new. -/
  results : ∀ commands, outcomes commands = Shelf.results {} commands
  /-- The handles that are printed are the numbers from one on. -/
  counted : ∀ commands, (∀ command ∈ commands, command.Fits) →
    ∃ count, Shelf.handles commands (outcomes commands) =
      (List.range' 1 count).map fun number => line (toString number)
  /-- The objects on the shelf are those that were stored and since then neither deleted nor
  wiped. -/
  objects : ∀ commands handle item,
    (Shelf.after {} commands).objects.get? handle = some item ↔
      ∃ early first late, commands = early ++ first :: late ∧
        (Shelf.after {} early).Stores handle item first ∧
          ∀ later ∈ late, later ≠ .wipe ∧ later ≠ .delete handle
  /-- The internal blobs on the shelf are those that were stored last. -/
  internal : ∀ commands number text,
    (Shelf.after {} commands).internal.get? number = some text ↔
      ∃ early first late, commands = early ++ first :: late ∧ Shelf.Notes number text first ∧
        ∀ later ∈ late, ∀ other, ¬ Shelf.Notes number other later
  /-- After a command that fails, everything is as it was before. -/
  unchanged : ∀ commands command more failure, command.Fits →
    outcomes (commands ++ [command]) = outcomes commands ++ [.failed failure] →
      outcomes (commands ++ command :: more) =
        outcomes commands ++ .failed failure :: (Shelf.after {} commands).touched.results more

/-- Commands with the same key, each of which opens the vault for itself, do as on a shelf, on every
engine that keeps the database from one command to the next. -/
theorem resultsAt_asOnShelf {store keyHex : String} (keeping : engine.Keeping ⟨store⟩)
    (named : store ≠ Location.memoryMarker) (readsKey : readHex keyHex = .ok key.bytes)
    {world : World σ} (vacant : (Layout.mk store).Vacant world.disk) (nonces : NonceSupply) :
    AsOnShelf fun commands => resultsAt engine .standard store keyHex commands world nonces := by
  have same (commands : List Command) :
      resultsAt engine .standard store keyHex commands world nonces =
        Shelf.results {} commands := by
    have rests : Rests keeping (circumstancesOf key nonces commands) nonces world {} :=
      .new (keeping.vacant vacant) rfl
    exact resultsAt_of_rests named readsKey rests fun _ => id
  refine ⟨same, fun commands fit => ?_, Shelf.get?_objects_after, Shelf.get?_internal_after, ?_⟩
  · rw [same]
    exact Shelf.handles_results {} fit
  · intro commands command more failure fits fails
    simp only [same, Shelf.results_append, List.append_cancel_left_eq] at fails ⊢
    have failed : ((Shelf.after {} commands).carryOut command).1 = .failed failure :=
      (List.cons.inj fails).1
    rw [Shelf.results, failed, Shelf.carryOut_of_failed fits failed]

namespace Errands

/-- The master key. -/
def masterKey : SealingKey := .repeated 1

/-- It in hexadecimal. -/
def keyHex : String := "0101010101010101010101010101010101010101010101010101010101010101"

/-- Some commands, two of which fail. -/
def commands : List Command := [
  .insert false " 0A ", .insert true "abc", .insert true "0b", .delete ⟨1⟩, .delete ⟨7⟩,
  .list true, .list false, .setInternal 3 "Ff", .getInternal 3, .wipe, .list true, .init]

/-- What comes of them. -/
def results : List Result := [
  .printed "1\n",
  .failed ⟨"expected hex input", ["Odd number of digits"]⟩,
  .printed "2\n", .printed "", .failed ⟨"no readable object with handle 7", []⟩,
  .printed "\x7b\n  \"2\": \"0b\"\n\x7d\n", .printed "\x7b\x7d\n", .printed "",
  .printed "\"ff\"\n", .printed "", .printed "\x7b\x7d\n",
  .printed (line (report (⟨(), .opened, false⟩ : Opened Unit) 1))]

end Errands

/-- Some commands on an empty disk do as on a shelf. -/
theorem resultsAt_asOnShelf_errands :
    "vault" ≠ Location.memoryMarker ∧ readHex Errands.keyHex = .ok Errands.masterKey.bytes ∧
      (Layout.mk "vault").Vacant {} ∧
      resultsAt Files.engine .standard "vault" Errands.keyHex Errands.commands ⟨{}, {}⟩
        ⟨Nonce.counting, 0⟩ = Errands.results := by
  have named : "vault" ≠ Location.memoryMarker := by decide
  have readsKey : readHex Errands.keyHex = .ok Errands.masterKey.bytes := by decide +kernel
  have vacant : (Layout.mk "vault").Vacant {} :=
    ⟨by decide +kernel, fun _ _ _ _ => nofun, fun _ _ => rfl, by simp⟩
  have shelf : AsOnShelf fun commands => resultsAt Files.engine .standard "vault" Errands.keyHex
      commands ⟨{}, {}⟩ ⟨Nonce.counting, 0⟩ :=
    resultsAt_asOnShelf (Files.keeping _) named readsKey vacant _
  refine ⟨named, readsKey, vacant, ?_⟩
  have shown : Shelf.results {} Errands.commands = Errands.results := by decide +kernel
  exact (shelf.results Errands.commands).trans shown

end Command

end ObjectVault
