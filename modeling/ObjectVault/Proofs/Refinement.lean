import ObjectVault.Proofs.Mirror
import ObjectVault.Proofs.SealingKey

/-!
# A vault is a plain vault

If nothing goes wrong with its database, a vault answers as a plain one does, whatever the program
does and as often as it opens the vault again (`answers_as_plain`). A step keeps what
`Plain.Shows` says of the plain vault, the vault and its database, and the answers of all steps
follow by induction.
-/

namespace ObjectVault

open Exchange Lifetime

/-- The payloads that a call brings. -/
def Vault.Operation.payloads : Operation → List Bytes
  | .insert blob => [blob.payload]
  | .update _ blob => [blob.payload]
  | _ => []

/-- The master keys that a call brings. -/
def Vault.Operation.masterKeys : Operation → List SealingKey
  | .setMasterKey bytes => if fits : bytes.length = 32 then [⟨bytes, fits⟩] else []
  | _ => []

/-- The payloads that a step brings. -/
def Lifetime.Step.payloads : Step → List Bytes
  | .reopen .. => []
  | .operate operation => operation.payloads

/-- The master keys that a step brings. -/
def Lifetime.Step.masterKeys : Step → List SealingKey
  | .reopen _ masterKey => masterKey.toList
  | .operate operation => operation.masterKeys

/-- What a program brings that takes some steps. -/
def Circumstances.ofSteps (suite : Suite) (nonces : NonceSupply) (steps : List Step) :
    Circumstances where
  suite := suite
  nonce := nonces.nonce
  keys := steps.flatMap Step.masterKeys
  payloads := steps.flatMap Step.payloads

namespace Plain

variable {circumstances : Circumstances} {plain : Plain} {table : Table} {memory after : Memory}
  {exchanges : List Exchange}

/-- The plain vault after a call answers as the vault does. -/
theorem Mirrors.perform (fair : circumstances.Fair)
    (mirrors : Mirrors circumstances plain memory table) {operation : Vault.Operation}
    {ending : Ending Vault.Answer}
    (payloads : ∀ payload ∈ operation.payloads, payload ∈ circumstances.payloads)
    (masterKeys : ∀ key ∈ operation.masterKeys, key ∈ circumstances.keys)
    (truthful : AllTruthful exchanges table) (succeed : ∀ exchange ∈ exchanges, exchange.Succeeds)
    (performing : Vault.Performing circumstances.suite memory operation exchanges ending after) :
    ending = (plain.perform operation).1 ∧
      Mirrors circumstances (plain.perform operation).2 after (afterAll exchanges table) := by
  cases performing with
  | insert inserting =>
    obtain ⟨rfl, mirrored⟩ :=
      mirrors.insert fair (payloads _ (.head _)) truthful succeed inserting
    exact ⟨rfl, mirrored⟩
  | update updating =>
    obtain ⟨rfl, mirrored⟩ := mirrors.update fair (payloads _ (.head _)) succeed updating
    exact ⟨rfl, mirrored⟩
  | delete deleting =>
    obtain ⟨rfl, mirrored⟩ := mirrors.delete succeed deleting
    exact ⟨rfl, mirrored⟩
  | deleteAll deleting =>
    obtain ⟨rfl, mirrored⟩ := mirrors.deleteAll truthful succeed deleting
    exact ⟨rfl, mirrored⟩
  | loadPublic loading =>
    have keyed : plain.Keyed false := nofun
    obtain ⟨rfl, mirrored⟩ := mirrors.load fair keyed truthful succeed loading
    exact ⟨rfl, mirrored⟩
  | loadPrivate loading =>
    cases loading with
    | keyless unset =>
      rw [mirrors.masterKey] at unset
      simp only [Plain.perform, if_pos unset]
      exact ⟨rfl, mirrors⟩
    | keyed set loading =>
      rw [mirrors.masterKey] at set
      have keyed : plain.Keyed true := fun _ => set
      obtain ⟨rfl, mirrored⟩ := mirrors.load fair keyed truthful succeed loading
      simp only [Plain.perform, if_neg (Option.isSome_iff_ne_none.1 set)]
      exact ⟨rfl, mirrored⟩
  | getInternal recalling =>
    obtain ⟨rfl, mirrored⟩ := mirrors.recall truthful succeed recalling
    exact ⟨rfl, mirrored⟩
  | setInternal noting =>
    obtain ⟨rfl, mirrored⟩ := mirrors.note succeed noting
    exact ⟨rfl, mirrored⟩
  | @setMasterKey bytes key fits =>
    obtain ⟨size, rfl⟩ := SealingKey.ofBytes_eq_ok_iff.1 fits
    have used := masterKeys ⟨bytes, size⟩ (by simp [Vault.Operation.masterKeys, size])
    simp only [Plain.perform, dif_pos size]
    exact ⟨trivial, mirrors.setMasterKey used⟩
  | @unfitKey bytes error unfit =>
    obtain ⟨size, rfl⟩ := SealingKey.ofBytes_eq_error_iff.1 unfit
    simp only [Plain.perform, dif_neg size]
    exact ⟨trivial, mirrors⟩
  | hasMasterKey =>
    rw [mirrors.masterKey]
    exact ⟨rfl, mirrors⟩
  | formatVersion =>
    obtain ⟨value, answered⟩ := succeed _ (.head _)
    subst answered
    have found : value = table.get? MetadataItem.formatVersion.key := truthful.1
    rw [found, mirrors.storedIn.ready.version, Metadata.reading, Decimal.parse?_render]
    exact ⟨rfl, mirrors⟩

/-- A call of a plain vault does not panic. -/
theorem panics_perform (plain : Plain) (operation : Vault.Operation) :
    (plain.perform operation).1.panics = false := by
  cases operation with
  | insert blob =>
    simp only [Plain.perform, Ending.panics_map, Plain.insert]
    split
    · rfl
    · split <;> rfl
  | update handle blob =>
    simp only [Plain.perform, Ending.panics_map, Plain.update]
    split <;> rfl
  | loadPrivate =>
    simp only [Plain.perform]
    split <;> rfl
  | setMasterKey bytes =>
    simp only [Plain.perform]
    split <;> rfl
  | _ => rfl

/-- What a session has in mind that was opened on a new database. -/
theorem Mirrors.fresh {nonces : NonceSupply} {masterKey : Option SealingKey}
    (ready : table.Ready Metadata.firstHandle)
    (unused : ∀ category number, ¬ table.Stores category number)
    (stream : nonces.nonce = circumstances.nonce)
    (inUse : ∀ key, masterKey = some key → key ∈ circumstances.keys) :
    Mirrors circumstances { masterKey } ⟨nonces, masterKey, ∅⟩ table where
  storedIn := {
    ready := ready
    internal := by
      intro number
      cases stored : table.get? (BlobKey.encode .internal number) with
      | none => rfl
      | some value => exact absurd ⟨value, stored⟩ (unused .internal number)
    stored := by
      intro handle object found
      cases found
    covered := fun handle isPrivate stores => absurd stores (unused _ _)
    regular := by
      intro handle object found
      cases found }
  backed := Memory.Backed.empty _ _ _
  stream := stream
  masterKey := rfl
  known := rfl
  inUse := inUse

/-- What a session has in mind that was opened again. -/
theorem Mirrors.reopened (mirrors : Mirrors circumstances plain memory table)
    {masterKey : Option SealingKey}
    (inUse : ∀ key, masterKey = some key → key ∈ circumstances.keys) :
    Mirrors circumstances { plain with masterKey, known := ∅ } ⟨memory.nonces, masterKey, ∅⟩
      table where
  storedIn := mirrors.storedIn.of_same rfl rfl rfl
  backed := Memory.Backed.empty _ _ _
  stream := mirrors.stream
  masterKey := rfl
  known := rfl
  inUse := inUse

/-- Whether a plain vault is how a vault stands to its user. There is none before the vault is
opened for the first time. -/
def Shows (circumstances : Circumstances) : Option Plain → Standing → Table → Prop
  | none, .closed nonces, table => table.Blank ∧ nonces.nonce = circumstances.nonce
  | some plain, .working memory, table => Mirrors circumstances plain memory table
  | _, _, _ => False

variable {shown : Option Plain} {before later : Standing} {setting : Setting}

/-- A vault is opened as the plain one is. -/
theorem Shows.reopen (shows : Shows circumstances shown before table) {unhindered : Prop}
    (smooth : unhindered) (sink : EventSink) {masterKey : Option SealingKey}
    (inUse : ∀ key, masterKey = some key → key ∈ circumstances.keys)
    (truthful : AllTruthful exchanges table) (succeed : ∀ exchange ∈ exchanges, exchange.Succeeds)
    {ending : Ending (Opened Unit)} (opening : Opening unhindered exchanges ending) :
    .opening ending = (take (.reopen sink masterKey) shown).1 ∧
      Shows circumstances (take (.reopen sink masterKey) shown).2
        (.working ⟨before.nonces, masterKey, ∅⟩) (afterAll exchanges table) := by
  cases opening with
  | refused hindered => exact absurd smooth hindered
  | initializing direct initializing =>
    cases direct smooth
    match shown, before, shows with
    | none, .closed nonces, ⟨blank, stream⟩ =>
      obtain ⟨rfl, ready, unused⟩ := initializing.of_blank blank truthful succeed
      exact ⟨rfl, .fresh ready unused stream inUse⟩
    | some plain, .working memory, mirrors =>
      obtain ⟨rfl, same⟩ := initializing.of_ready mirrors.storedIn.ready truthful succeed
      rw [same]
      exact ⟨rfl, mirrors.reopened inUse⟩

/-- If the cipher is fair and nothing goes wrong, what comes of a step is what comes of it for the
plain vault. -/
theorem Shows.take (shows : Shows circumstances shown before table) (fair : circumstances.Fair)
    (unhindered : setting.Unhindered) (suite : setting.suite = circumstances.suite) {step : Step}
    (payloads : ∀ payload ∈ step.payloads, payload ∈ circumstances.payloads)
    (masterKeys : ∀ key ∈ step.masterKeys, key ∈ circumstances.keys)
    (yields : setting.adversity.Yields exchanges table) {outcome : Outcome}
    (going : Going setting before step exchanges outcome later) :
    outcome = (take step shown).1 ∧
      Shows circumstances (take step shown).2 later (afterAll exchanges table) := by
  have succeed := yields.succeed unhindered.harmless
  cases going with
  | idle =>
    cases shown with
    | none => exact ⟨rfl, shows⟩
    | some plain => exact absurd shows id
  | refused => cases shown <;> exact absurd shows id
  | performed performing =>
    cases shown with
    | none => exact absurd shows id
    | some plain =>
      rw [suite] at performing
      obtain ⟨rfl, mirrored⟩ := Mirrors.perform fair shows payloads masterKeys yields.truthful
        succeed performing
      rw [panics_perform]
      exact ⟨rfl, mirrored⟩
  | @unopened _ sink masterKey _ _ opening failing =>
    have inUse (key : SealingKey) (set : masterKey = some key) : key ∈ circumstances.keys :=
      masterKeys key (by simp [Step.masterKeys, set])
    obtain ⟨same, _⟩ := shows.reopen unhindered sink inUse yields.truthful succeed opening
    cases shown <;> exact absurd (Outcome.opening.inj same) (failing _)
  | @opened _ sink masterKey _ _ opening =>
    have inUse (key : SealingKey) (set : masterKey = some key) : key ∈ circumstances.keys :=
      masterKeys key (by simp [Step.masterKeys, set])
    exact shows.reopen unhindered sink inUse yields.truthful succeed opening

/-- If the cipher is fair and nothing goes wrong, what comes of all steps is what comes of them for
the plain vault. -/
theorem Shows.outcomes (fair : circumstances.Fair) (unhindered : setting.Unhindered)
    (suite : setting.suite = circumstances.suite) {steps : List Step}
    (payloads : ∀ payload ∈ steps.flatMap Step.payloads, payload ∈ circumstances.payloads)
    (masterKeys : ∀ key ∈ steps.flatMap Step.masterKeys, key ∈ circumstances.keys)
    {situation : Situation}
    (shows : Shows circumstances shown situation.standing situation.table) :
    (reports setting steps situation).map Report.outcome = outcomes steps shown := by
  induction steps generalizing shown situation with
  | nil => rfl
  | cons step rest ih =>
    rw [List.flatMap_cons] at payloads masterKeys
    obtain ⟨exchanges, yields, history, going⟩ := take_going setting step situation
    obtain ⟨same, shows⟩ := shows.take fair unhindered suite
      (fun payload member => payloads payload (List.mem_append_left _ member))
      (fun key member => masterKeys key (List.mem_append_left _ member)) yields going
    rw [← table_of_making history] at shows
    have later := ih (fun payload member => payloads payload (List.mem_append_right _ member))
      (fun key member => masterKeys key (List.mem_append_right _ member)) shows
    rw [reports, List.map_cons, later, same]
    rfl

end Plain

namespace Lifetime

/-- A vault whose database was empty at first and with which nothing goes wrong answers as a plain
vault does, if the cipher is fair. -/
theorem answers_as_plain (setting : Setting) (steps : List Step) (disk : Disk)
    (nonces : NonceSupply) (unhindered : setting.Unhindered)
    (fair : (Circumstances.ofSteps setting.suite nonces steps).Fair) :
    (reports setting steps (.start disk nonces)).map Report.outcome =
      Plain.outcomes steps none := by
  have shows : Plain.Shows (.ofSteps setting.suite nonces steps) none
      (Situation.start disk nonces).standing (Situation.start disk nonces).table :=
    ⟨Table.blank_empty, rfl⟩
  exact shows.outcomes fair unhindered rfl (fun _ => id) fun _ => id

namespace Rotation

/-- The master key at first. -/
def early : SealingKey := .repeated 1

/-- The master key later on. -/
def late : SealingKey := .repeated 2

/-- An object that is sealed under the first key. -/
def secret : Blob := ⟨true, [1, 2, 3]⟩

/-- A supply that always has the same nonce. -/
def nonces : NonceSupply := ⟨fun _ => .counting 0, 0⟩

/-- A program that comes back with another master key. -/
def steps : List Step := [
  .reopen .log (some early), .operate (.insert secret), .reopen .log (some late),
  .operate .loadPrivate, .operate (.setMasterKey early.bytes), .operate .loadPrivate]

/-- What comes of it. -/
def outcomes : List Outcome := [
  .opening (.done ⟨(), .opened, true⟩), .answer (.done (.handle ⟨1⟩)),
  .opening (.done ⟨(), .opened, false⟩), .answer (.done (.objects ∅)), .answer (.done .nothing),
  .answer (.done (.objects (SortedMap.insert ∅ ⟨1⟩ secret)))]

/-- Neither key has the digest of the other for what it seals. -/
theorem tags_differ : ∀ pair ∈ [(early, late), (late, early)],
    ((Suite.standard.encrypt? pair.1 (.counting 0) secret.payload).all fun body =>
      Suite.standard.tag pair.2 (Envelope.signed (.counting 0) body) !=
        Suite.standard.tag pair.1 (Envelope.signed (.counting 0) body)) = true := by
  decide +kernel

/-- The suite serves this program well. -/
theorem fair : (Circumstances.ofSteps .standard nonces steps).Fair where
  undoes := Suite.undoes_standard
  accepts := by
    intro payload used
    have same : payload = secret.payload := List.mem_singleton.1 used
    rw [same]
    exact Suite.accepts_standard (by decide)
  apart := by
    intro key used other alsoUsed differs index payload stored body encrypted
    have same : payload = secret.payload := List.mem_singleton.1 stored
    have either {used : SealingKey} (member : used ∈ [early, late, early]) :
        used = early ∨ used = late := by
      simpa [or_comm] using member
    have pair : (key, other) ∈ [(early, late), (late, early)] := by
      rcases either used with rfl | rfl <;> rcases either alsoUsed with rfl | rfl
      · exact absurd rfl differs
      · exact .head _
      · exact .tail _ (.head _)
      · exact absurd rfl differs
    have tags := tags_differ _ pair
    rw [same] at encrypted
    change Suite.standard.encrypt? key (.counting 0) secret.payload = some body at encrypted
    rw [encrypted] at tags
    exact bne_iff_ne.1 tags

end Rotation

/-- What was sealed under one master key is not loaded under another one. -/
theorem answers_as_plain_rotation :
    (reports ⟨.standard, .memory, true, .absent⟩ Rotation.steps
      (.start {} Rotation.nonces)).map Report.outcome = Rotation.outcomes := by
  rw [answers_as_plain _ _ _ _ ⟨Adversity.harmless_absent, fun _ => rfl⟩ Rotation.fair]
  rfl

end Lifetime

end ObjectVault
