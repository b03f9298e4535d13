import ObjectVault.Proofs.Loading

/-!
# Actions that do everything or nothing

Whatever is stored in a database, and whatever a vault has in mind, a load and a deletion either do
all that they are to do, or fail and leave the database as it was, and they fail only if a call of
the database does. An action achieves a value and a content if this is so (`Ground.Achieves`). What
is put together of such actions, of which only the last one writes, achieves what they achieve.
-/

namespace ObjectVault

open Exchange

/-- What is in an open vault. -/
structure Content where
  table : Table
  memory : Memory

/-- The content once the objects of a category are loaded. -/
def Content.loading (content : Content) (suite : Suite) (category : Category) : Content where
  table := content.table
  memory := { content.memory with
    categories := content.memory.categories.insertAll
      (((content.table.blobsOf category).filterMap
        (StoredBlob.object? suite content.memory.masterKey category)).map
          fun object => (object.1, category)) }

/-- The category of an object that has been loaded is known. -/
theorem Content.categoryOf_loading (content : Content) (suite : Suite) {category : Category}
    {handle : Handle}
    (loaded :
      (content.table.objects suite content.memory.masterKey category).contains handle = true) :
    (content.loading suite category).memory.categoryOf handle = category := by
  rw [SortedMap.contains_iff, Table.objects_eq] at loaded
  rw [Memory.categoryOf, loading, SortedMap.get?_insertAll_category, if_pos loaded]
  rfl

/-- What a vault runs on, and what is known of its database. -/
structure Ground (ω : Type) where
  services : Services ω
  Has : Table → ω → Prop
  reliable : Prop
  /-- The calls of the database are truthful about its table and write to it. -/
  keeps : ∀ {table world exchanges later}, Has table world →
    services.backend.Makes world exchanges later →
      AllTruthful exchanges table ∧ (reliable → ∀ exchange ∈ exchanges, exchange.Succeeds) ∧
        Has (afterAll exchanges table) later

namespace Ground

variable {ω α β : Type} {ground : Ground ω} {before middle after : Content}

/-- Whether a vault has a content and its lock is whole. -/
structure Holds (ground : Ground ω) (content : Content) (vault : Vault ω) : Prop where
  whole : vault.poisoned = false
  has : ground.Has content.table vault.session.world
  remembers : vault.session.memory = content.memory

/-- How an action ends that has a value if the database is reliable, and changes nothing there if it
fails. -/
inductive AllOrNothing (ground : Ground ω) (before : Table) (value : α) (after : Content) :
    Ending α → Vault ω → Prop where
  | all {vault} (holds : ground.Holds after vault) :
      AllOrNothing ground before value after (.done value) vault
  | nothing {ending vault} (unreliable : ¬ ground.reliable)
      (failing : ∀ value, ending ≠ .done value)
      (has : ground.Has before vault.session.world) :
      AllOrNothing ground before value after ending vault

/-- Either there is the value and all is done, or a call has failed and nothing is. -/
theorem AllOrNothing.cases_ending {table : Table} {value : α} {ending : Ending α} {vault : Vault ω}
    (allOrNothing : ground.AllOrNothing table value after ending vault) :
    ending = .done value ∧ ground.Holds after vault ∨
      ¬ ground.reliable ∧ (∀ value, ending ≠ .done value) ∧
        ground.Has table vault.session.world := by
  cases allOrNothing with
  | all holds => exact .inl ⟨rfl, holds⟩
  | nothing unreliable failing has => exact .inr ⟨unreliable, failing, has⟩

/-- Whether an action on a vault with a content has a value and leaves another content, unless it
fails and leaves the database as it is. -/
def Achieves (ground : Ground ω) (action : Action (Vault ω) α) (before : Content) (value : α)
    (after : Content) : Prop :=
  ∀ machine, ground.Holds before machine.state →
    ground.AllOrNothing before.table value after (action.run machine).1
      (action.run machine).2.state

namespace Achieves

theorem pure {value result : α} (same : value = result) :
    ground.Achieves (Pure.pure value) before result before := by
  subst same
  exact fun _ holds => .all holds

/-- An action goes on after one that changes nothing in the database. -/
theorem bind {first : Action (Vault ω) α} {next : α → Action (Vault ω) β} {value : α} {result : β}
    (early : ground.Achieves first before value middle) (same : middle.table = before.table)
    (late : ground.Achieves (next value) middle result after) :
    ground.Achieves (first >>= next) before result after := by
  intro machine holds
  have first := early machine holds
  rw [Action.run_bind]
  generalize Action.run _ machine = outcome at first ⊢
  obtain ⟨ending, later⟩ := outcome
  cases first with
  | all holds =>
    have second := late later holds
    rw [same] at second
    exact second
  | nothing unreliable failing has =>
    cases ending with
    | done value => exact absurd rfl (failing value)
    | failed error => exact .nothing unreliable nofun has
    | panicked => exact .nothing unreliable nofun has

/-- The value of an action may be converted. -/
theorem map {action : Action (Vault ω) α} {value : α}
    (achieves : ground.Achieves action before value after) (convert : α → β) :
    ground.Achieves (action >>= fun value => Pure.pure (convert value)) before (convert value)
      after := by
  intro machine holds
  have once := achieves machine holds
  rw [Action.run_bind_pure]
  generalize action.run machine = outcome at once ⊢
  obtain ⟨ending, later⟩ := outcome
  cases once with
  | all holds => exact .all holds
  | nothing unreliable failing has =>
    refine .nothing unreliable (fun _ done => ?_) has
    obtain ⟨value, done, _⟩ := Ending.map_eq_done.1 done
    exact failing value done

theorem of_true {test : Bool} {first second : Action (Vault ω) α} {value : α} (isTrue : test = true)
    (achieves : ground.Achieves first before value after) :
    ground.Achieves (if test then first else second) before value after := by
  rwa [if_pos isTrue]

theorem of_false {test : Bool} {first second : Action (Vault ω) α} {value : α}
    (isFalse : test = false) (achieves : ground.Achieves second before value after) :
    ground.Achieves (if test then first else second) before value after := by
  rwa [if_neg (Bool.eq_false_iff.1 isFalse)]

/-- A call achieves what its conduct says. -/
theorem of_conducts {action : Action (Vault ω) α}
    {conduct : Memory → List Exchange → Ending α → Memory → Prop} {value : α}
    (conducts : Vault.Conducts ground.services.backend action conduct)
    (leads : ∀ {exchanges ending later}, AllTruthful exchanges before.table →
      conduct before.memory exchanges ending later →
        ending = .done value ∧ after = ⟨afterAll exchanges before.table, later⟩ ∨
        (∃ exchange ∈ exchanges, ¬ exchange.Succeeds) ∧ (∀ value, ending ≠ .done value) ∧
          afterAll exchanges before.table = before.table) :
    ground.Achieves action before value after := by
  intro machine holds
  obtain ⟨exchanges, makes, conduct, breaks⟩ := conducts machine holds.whole
  obtain ⟨truthful, succeed, has⟩ := ground.keeps holds.has makes
  rw [holds.remembers] at conduct
  rcases leads truthful conduct with
    ⟨done, rfl⟩ | ⟨⟨exchange, member, fails⟩, failing, same⟩
  · rw [done] at breaks ⊢
    exact .all ⟨breaks, has, rfl⟩
  · rw [same] at has
    exact .nothing (fun reliable => fails (succeed reliable exchange member)) failing has

end Achieves

/-- The objects of a category are all loaded, or none. -/
theorem leads_of_loading {suite : Suite} {category : Category} {exchanges : List Exchange}
    {ending : Ending (SortedMap Handle Blob)} {later : Memory}
    (truthful : AllTruthful exchanges before.table)
    (loading : Session.Loading suite category before.memory exchanges ending later) :
    ending = .done (before.table.objects suite before.memory.masterKey category) ∧
        before.loading suite category = ⟨afterAll exchanges before.table, later⟩ ∨
      (∃ exchange ∈ exchanges, ¬ exchange.Succeeds) ∧ (∀ value, ending ≠ .done value) ∧
        afterAll exchanges before.table = before.table := by
  cases loading with
  | @unscanned seen failing =>
    refine .inr ⟨⟨_, .head _, failing⟩, fun objects done => ?_, rfl⟩
    obtain ⟨_, scanned, _⟩ := Ending.map_eq_done.1 done
    exact failing (Reply.ending_eq_done.1 scanned)
  | @loaded seen scanned =>
    have complete : seen.visited = before.table.entries := truthful.1.2 scanned
    rw [Session.found, complete]
    exact .inl ⟨rfl, rfl⟩

/-- The public objects are loaded, all that can be read, or the scan fails. -/
theorem achieves_loadPublic (ground : Ground ω) (content : Content) :
    ground.Achieves (Vault.loadPublic ground.services) content
      (content.table.objects ground.services.suite content.memory.masterKey .publicObject)
      (content.loading ground.services.suite .publicObject) :=
  .of_conducts (Vault.locked_conduct (Session.loadPublic_conduct ground.services)) leads_of_loading

/-- So are the private ones if there is a master key. -/
theorem achieves_loadPrivate (ground : Ground ω) {content : Content}
    (keyed : content.memory.masterKey.isSome) :
    ground.Achieves (Vault.loadPrivate ground.services) content
      (content.table.objects ground.services.suite content.memory.masterKey .privateObject)
      (content.loading ground.services.suite .privateObject) := by
  refine .of_conducts (Vault.locked_conduct (Session.loadPrivate_conduct ground.services))
    fun truthful loading => ?_
  cases loading with
  | keyless unset => simp [unset] at keyed
  | keyed _ loading => exact leads_of_loading truthful loading

/-- No call is needed to tell whether there is a master key. -/
theorem achieves_hasMasterKey (ground : Ground ω) (content : Content) :
    ground.Achieves Vault.hasMasterKey content content.memory.masterKey.isSome content := by
  intro machine holds
  have known : machine.state.session.masterKey = content.memory.masterKey :=
    congrArg Memory.masterKey holds.remembers
  rw [Vault.hasMasterKey, Vault.locked_run _ _ holds.whole, ← known]
  exact .all ⟨rfl, holds.has, holds.remembers⟩

/-- The key of the category that is known is removed, and the handle is forgotten. -/
theorem achieves_delete (ground : Ground ω) (content : Content) (handle : Handle) :
    ground.Achieves (Vault.delete ground.services handle) content ()
      ⟨content.table.erase (BlobKey.encode (content.memory.categoryOf handle) handle.number),
        content.memory.without handle⟩ := by
  refine .of_conducts (Vault.locked_conduct (Session.delete_conduct ground.services handle))
    fun _ deleting => ?_
  cases deleting with
  | deleted => exact .inl ⟨rfl, rfl⟩
  | @undeleted reply failing =>
    refine .inr ⟨⟨_, .head _, failing⟩, fun value done => ?_, after_delete_of_ne failing⟩
    exact failing (Reply.ending_eq_done.1 done)

end Ground

end ObjectVault
