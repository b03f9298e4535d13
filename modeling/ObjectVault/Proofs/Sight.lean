import ObjectVault.Proofs.Reachable

/-!
# What is seen of a database

A program that opens a vault on a database and looks at everything in it sees the public objects,
the private ones that were sealed under its master key, and the internal blobs (`Sight`). That is
all that the blobs under their keys make out: `Lifetime.sees_sight` says that a vault on an
initialized database with which nothing goes wrong shows its `Table.sight`, and
`Table.SameBlobs.sight_eq` that the sight is the same if the blobs are.
-/

namespace ObjectVault

open Exchange

/-- What a program sees that opens a vault with a master key. -/
structure Sight where
  publicObjects : SortedMap Handle Blob
  /-- The private objects that were sealed under the master key. -/
  privateObjects : SortedMap Handle Blob
  internal : UInt32 → Option Bytes

/-- A way to look into a vault. -/
inductive Look where
  | publicObjects
  | privateObjects
  | internal (number : UInt32)

/-- The call that is made to look. -/
def Look.operation : Look → Vault.Operation
  | .publicObjects => .loadPublic
  | .privateObjects => .loadPrivate
  | .internal number => .getInternal number

/-- What is answered if a sight is seen. -/
def Sight.answer (sight : Sight) : Look → Vault.Answer
  | .publicObjects => .objects sight.publicObjects
  | .privateObjects => .objects sight.privateObjects
  | .internal number => .internal (sight.internal number)

/-- What is left of a sight if some of the objects are removed. -/
def Sight.without (sight : Sight) (handles : List Handle) : Sight where
  publicObjects := sight.publicObjects.eraseAll handles
  privateObjects := sight.privateObjects.eraseAll handles
  internal := sight.internal

namespace Table

/-- The objects of a category that are in a database and can be read. -/
def objects (table : Table) (suite : Suite) (master : Option SealingKey) (category : Category) :
    SortedMap Handle Blob :=
  SortedMap.insertAll ∅ (StoredBlob.readable suite master category
    ((StoredBlob.among table.entries).filter fun blob => blob.category = category))

/-- What is to be seen of a database. -/
def sight (table : Table) (suite : Suite) (masterKey : SealingKey) : Sight where
  publicObjects := table.objects suite (some masterKey) .publicObject
  privateObjects := table.objects suite (some masterKey) .privateObject
  internal number := table.get? (BlobKey.encode .internal number)

/-- Whether a database has the same blobs as another one. Their counters may differ. -/
def SameBlobs (table other : Table) : Prop :=
  ∀ category number,
    table.get? (BlobKey.encode category number) = other.get? (BlobKey.encode category number)

variable {table other : Table} {suite : Suite} {masterKey : SealingKey} {category : Category}

/-- An object is found if its envelope is stored and is opened. -/
theorem get?_objects_eq_some_iff (canonical : table.Canonical) {master : Option SealingKey}
    {handle : Handle} {object : Blob} :
    (table.objects suite master category).get? handle = some object ↔
      ∃ envelope, table.get? (BlobKey.encode category handle.number) = some envelope ∧
        Envelope.decrypt suite master ⟨category == .privateObject, envelope⟩ = .ok object := by
  have members (object : Blob) :
      (handle, object) ∈ StoredBlob.readable suite master category
          ((StoredBlob.among table.entries).filter fun blob => blob.category = category) ↔
        ∃ envelope, table.get? (BlobKey.encode category handle.number) = some envelope ∧
          Envelope.decrypt suite master ⟨category == .privateObject, envelope⟩ = .ok object := by
    rw [StoredBlob.mem_readable]
    constructor
    · rintro ⟨blob, member, rfl, rfl, opened⟩
      obtain ⟨key, stored⟩ := (StoredBlob.mem_among_entries canonical).1 member
      rw [key] at stored
      exact ⟨blob.value, stored, opened⟩
    · rintro ⟨envelope, stored, opened⟩
      exact ⟨⟨_, category, handle, envelope⟩,
        (StoredBlob.mem_among_entries canonical).2 ⟨rfl, stored⟩, rfl, rfl, opened⟩
  rw [← members, objects]
  constructor
  · intro found
    exact (SortedMap.of_get?_insertAll found).resolve_right nofun
  · intro member
    refine SortedMap.get?_insertAll_of_mem member fun another alsoMember => ?_
    obtain ⟨envelope, stored, opened⟩ := (members object).1 member
    obtain ⟨_, alsoStored, alsoOpened⟩ := (members another).1 alsoMember
    rw [stored] at alsoStored
    cases alsoStored
    rw [opened] at alsoOpened
    cases alsoOpened
    rfl

/-- What is seen of a database is made out by its blobs. -/
theorem SameBlobs.sight_eq (same : table.SameBlobs other) (canonical : table.Canonical)
    (otherCanonical : other.Canonical) (suite : Suite) (masterKey : SealingKey) :
    table.sight suite masterKey = other.sight suite masterKey := by
  have objects (category : Category) : table.objects suite (some masterKey) category =
      other.objects suite (some masterKey) category := by
    apply SortedMap.ext_get?
    intro handle
    ext object
    rw [get?_objects_eq_some_iff canonical, get?_objects_eq_some_iff otherCanonical, same]
  have internal := same .internal
  simp only [sight, objects, internal]

/-- An object is removed if another one is that has its number, as that is the same one. -/
theorem Ready.encode_mem_keys_iff {next : UInt32} {removed : List StoredBlob} {handle : Handle}
    (ready : table.Ready next) (areObjects : ∀ blob ∈ removed, blob.ObjectOf table)
    (isObject : category ≠ .internal) (stored : table.Stores category handle.number) :
    BlobKey.encode category handle.number ∈ removed.map StoredBlob.key ↔
      handle ∈ removed.map StoredBlob.handle := by
  constructor
  · intro member
    obtain ⟨blob, isRemoved, key⟩ := List.mem_map.1 member
    rw [(areObjects blob isRemoved).key, BlobKey.encode_inj] at key
    exact List.mem_map.2 ⟨blob, isRemoved, Handle.ext key.2⟩
  · intro member
    obtain ⟨blob, isRemoved, rfl⟩ := List.mem_map.1 member
    have object := areObjects blob isRemoved
    have alsoStored : table.Stores blob.category blob.handle.number :=
      ⟨blob.value, object.key ▸ object.stored⟩
    rw [ready.category_eq isObject object.category_ne stored alsoStored, ← object.key]
    exact List.mem_map_of_mem isRemoved

/-- If objects are removed from a database, they are missing from what is seen of it, and nothing
else is. -/
theorem Ready.sight_eraseAll {next : UInt32} {removed : List StoredBlob} (ready : table.Ready next)
    (areObjects : ∀ blob ∈ removed, blob.ObjectOf table) (suite : Suite)
    (masterKey : SealingKey) :
    sight (table.eraseAll (removed.map StoredBlob.key)) suite masterKey =
      (table.sight suite masterKey).without (removed.map StoredBlob.handle) := by
  have canonical : Canonical (table.eraseAll (removed.map StoredBlob.key)) :=
    fun key value stored =>
      ready.canonical key value (SortedMap.get?_eraseAll_eq_some_iff.1 stored).2
  have objects {category : Category} (isObject : category ≠ .internal) :
      objects (table.eraseAll (removed.map StoredBlob.key)) suite (some masterKey) category =
        (table.objects suite (some masterKey) category).eraseAll
          (removed.map StoredBlob.handle) := by
    apply SortedMap.ext_get?
    intro handle
    ext object
    simp only [get?_objects_eq_some_iff canonical, get?_objects_eq_some_iff ready.canonical,
      SortedMap.get?_eraseAll_eq_some_iff]
    constructor
    · rintro ⟨envelope, ⟨left, stored⟩, opened⟩
      rw [ready.encode_mem_keys_iff areObjects isObject ⟨envelope, stored⟩] at left
      exact ⟨left, envelope, stored, opened⟩
    · rintro ⟨left, envelope, stored, opened⟩
      rw [← ready.encode_mem_keys_iff areObjects isObject ⟨envelope, stored⟩] at left
      exact ⟨envelope, ⟨left, stored⟩, opened⟩
  have internal (number : UInt32) :
      SortedMap.get? (table.eraseAll (removed.map StoredBlob.key))
        (BlobKey.encode .internal number) = table.get? (BlobKey.encode .internal number) := by
    have left : BlobKey.encode .internal number ∉ removed.map StoredBlob.key := by
      intro member
      obtain ⟨blob, isRemoved, key⟩ := List.mem_map.1 member
      exact (areObjects blob isRemoved).key_ne_internal number key
    ext value
    rw [SortedMap.get?_eraseAll_eq_some_iff, and_iff_right left]
  simp only [sight, Sight.without, objects, internal, ne_eq, reduceCtorEq, not_false_eq_true]

end Table

/-- If every call works, the objects of a category are loaded, and nothing is changed. -/
theorem Session.Loading.of_succeed {suite : Suite} {category : Category} {table : Table}
    {before after : Memory} {exchanges : List Exchange} {ending : Ending (SortedMap Handle Blob)}
    (truthful : AllTruthful exchanges table) (succeed : ∀ exchange ∈ exchanges, exchange.Succeeds)
    (loading : Loading suite category before exchanges ending after) :
    ending = .done (table.objects suite before.masterKey category) ∧
      after.masterKey = before.masterKey ∧ afterAll exchanges table = table := by
  cases loading with
  | unscanned failing => exact absurd (succeed _ (.head _)) failing
  | @loaded seen scanned =>
    rw [found, truthful.1.2 scanned]
    exact ⟨rfl, rfl, rfl⟩

/-- If every call works, a look into a vault shows what is to be seen of its database, and changes
nothing. -/
theorem Vault.Performing.look {suite : Suite} {masterKey : SealingKey} {table : Table} {look : Look}
    {before after : Memory} {exchanges : List Exchange} {ending : Ending Answer}
    (keyed : before.masterKey = some masterKey) (truthful : AllTruthful exchanges table)
    (succeed : ∀ exchange ∈ exchanges, exchange.Succeeds)
    (performing : Performing suite before look.operation exchanges ending after) :
    ending = .done ((table.sight suite masterKey).answer look) ∧
      after.masterKey = some masterKey ∧ afterAll exchanges table = table := by
  cases look with
  | publicObjects =>
    cases performing with
    | loadPublic loading =>
      obtain ⟨rfl, sameKey, same⟩ := loading.of_succeed truthful succeed
      rw [keyed] at sameKey ⊢
      exact ⟨rfl, sameKey, same⟩
  | privateObjects =>
    cases performing with
    | loadPrivate loading =>
      cases loading with
      | keyless unset =>
        rw [keyed] at unset
        cases unset
      | keyed set loading =>
        obtain ⟨rfl, sameKey, same⟩ := loading.of_succeed truthful succeed
        rw [keyed] at sameKey ⊢
        exact ⟨rfl, sameKey, same⟩
  | internal number =>
    cases performing with
    | getInternal recalling =>
      cases recalling
      obtain ⟨value, answered⟩ := succeed _ (.head _)
      subst answered
      have found : value = table.get? (BlobKey.encode .internal number) := truthful.1
      rw [found]
      exact ⟨rfl, keyed, rfl⟩

/-- If nothing goes wrong, a vault on an initialized database is opened, and nothing is changed. -/
theorem Opening.of_ready {unhindered : Prop} {table : Table} {next : UInt32}
    {exchanges : List Exchange} {ending : Ending (Opened Unit)} (smooth : unhindered)
    (ready : table.Ready next) (truthful : AllTruthful exchanges table)
    (succeed : ∀ exchange ∈ exchanges, exchange.Succeeds)
    (opening : Opening unhindered exchanges ending) :
    ending = .done ⟨(), .opened, false⟩ ∧ afterAll exchanges table = table := by
  cases opening with
  | refused hindered => exact absurd smooth hindered
  | initializing direct initializing =>
    cases direct smooth
    obtain ⟨rfl, same⟩ := initializing.of_ready ready truthful succeed
    exact ⟨rfl, same⟩

/-- The setting in which nothing goes wrong any more. -/
def Setting.calm (setting : Setting) : Setting :=
  { setting with supportsMemory := true, adversity := .absent }

/-- Nothing hinders a vault where all is calm. -/
theorem Setting.unhindered_calm (setting : Setting) : setting.calm.Unhindered :=
  ⟨Adversity.harmless_absent, fun _ => rfl⟩

namespace Lifetime

/-- A look as a step. -/
def Step.look (look : Look) : Step := .operate look.operation

/-- Whether a sight is what is seen of a database: the program that opens a vault on it does not
find it new, and every look shows the sight, however often and in whatever order it looks. -/
def Sees (setting : Setting) (masterKey : SealingKey) (table : Table) (sight : Sight) : Prop :=
  ∀ situation : Situation, situation.table = table → ∀ sink, ∀ looks : List Look,
    (reports setting.calm (.reopen sink (some masterKey) :: looks.map .look) situation).map
        Report.outcome =
      .opening (.done ⟨(), .opened, false⟩) ::
        looks.map fun look => .answer (.done (sight.answer look))

variable {setting : Setting} {masterKey : SealingKey} {table : Table}

/-- An open vault with which nothing goes wrong shows what is to be seen of its database. -/
theorem outcomes_looks (unhindered : setting.Unhindered) (looks : List Look)
    {situation : Situation} {memory : Memory} (working : situation.standing = .working memory)
    (keyed : memory.masterKey = some masterKey) :
    (reports setting (looks.map .look) situation).map Report.outcome =
      looks.map fun look =>
        .answer (.done ((situation.table.sight setting.suite masterKey).answer look)) := by
  induction looks generalizing situation memory with
  | nil => rfl
  | cons look rest ih =>
    obtain ⟨exchanges, yields, history, going⟩ := take_going setting (.look look) situation
    have left := table_of_making history
    have truthful : AllTruthful exchanges situation.table := yields.truthful
    simp only [List.map_cons, reports]
    rw [working] at going
    generalize take setting (.look look) situation = report at going left ⊢
    generalize isOutcome : report.outcome = outcome, later : report.after.standing = standing
      at going
    cases going with
    | performed performing =>
      obtain ⟨rfl, stillKeyed, same⟩ :=
        performing.look keyed truthful (yields.succeed unhindered.harmless)
      rw [ih later stillKeyed, left, same]

/-- A vault on an initialized database with which nothing goes wrong shows what is to be seen of
it. -/
theorem sees_sight {next : UInt32} (ready : table.Ready next) (setting : Setting)
    (masterKey : SealingKey) :
    Sees setting masterKey table (table.sight setting.suite masterKey) := by
  rintro situation rfl sink looks
  obtain ⟨exchanges, yields, history, going⟩ :=
    take_going setting.calm (.reopen sink (some masterKey)) situation
  have left := table_of_making history
  have truthful : AllTruthful exchanges situation.table := yields.truthful
  have succeed := yields.succeed setting.unhindered_calm.harmless
  rw [reports, List.map_cons]
  generalize take setting.calm (.reopen sink (some masterKey)) situation = report
    at going left ⊢
  generalize situation.standing = before, isOutcome : report.outcome = outcome,
    later : report.after.standing = after at going
  cases going with
  | unopened opening failing =>
    obtain ⟨done, _⟩ := opening.of_ready setting.unhindered_calm ready truthful succeed
    exact absurd done (failing _)
  | opened opening =>
    obtain ⟨done, same⟩ := opening.of_ready setting.unhindered_calm ready truthful succeed
    rw [done, outcomes_looks setting.unhindered_calm looks later rfl, left, same]
    rfl

end Lifetime

end ObjectVault
