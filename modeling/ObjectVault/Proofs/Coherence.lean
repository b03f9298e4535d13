import ObjectVault.Proofs.Lifetime
import ObjectVault.Proofs.Soundness

/-!
# Coherence of a session with its database

A session knows an object only while it is stored: every category that it has in mind is that of an
object in the database (`Memory.Backed`). This and the readiness of the database are kept together
by every call of a vault (`Vault.Performing.orderly`), however many exchanges of it fail.
-/

namespace ObjectVault

open Exchange

/-- Whether a memory has only objects in mind that are stored, and a master key if one of them is
private. -/
def Memory.Backed (memory : Memory) (table : Table) : Prop :=
  ∀ handle category, memory.categories.get? handle = some category →
    category ≠ .internal ∧ table.Stores category handle.number ∧
      (category = .privateObject → memory.masterKey.isSome)

namespace Memory.Backed

variable {memory : Memory} {table later : Table}

/-- A memory stays backed if no object is removed. -/
theorem mono (backed : memory.Backed table)
    (kept : ∀ category number, table.Stores category number → later.Stores category number) :
    memory.Backed later := by
  intro handle category known
  obtain ⟨isObject, stored, keyed⟩ := backed handle category known
  exact ⟨isObject, kept _ _ stored, keyed⟩

/-- A stored object may be kept in mind. -/
theorem knowing (backed : memory.Backed table) (handle : Handle) {category : Category}
    (isObject : category ≠ .internal) (stored : table.Stores category handle.number)
    (keyed : category = .privateObject → memory.masterKey.isSome) :
    (memory.knowing handle category).Backed table := by
  intro other found known
  rcases SortedMap.of_get?_insert known with ⟨rfl, rfl⟩ | ⟨_, known⟩
  · exact ⟨isObject, stored, keyed⟩
  · exact backed other found known

/-- An object may be removed if it is forgotten. -/
theorem without_erase (backed : memory.Backed table) (handle : Handle) (category : Category) :
    (memory.without handle).Backed
      (SortedMap.erase table (BlobKey.encode category handle.number)) := by
  intro other found known
  obtain ⟨differs, known⟩ := SortedMap.of_get?_erase known
  obtain ⟨isObject, stored, keyed⟩ := backed other found known
  refine ⟨isObject, Table.stores_erase_encode.2 ⟨?_, stored⟩, keyed⟩
  rintro ⟨_, sameNumber⟩
  exact differs (Handle.ext sameNumber)

/-- A memory stays backed if the master key is set. -/
theorem unlocked (backed : memory.Backed table) (key : SealingKey) :
    Backed { memory with masterKey := some key } table := by
  intro handle category known
  obtain ⟨isObject, stored, _⟩ := backed handle category known
  exact ⟨isObject, stored, fun _ => rfl⟩

/-- A memory without anything in mind is backed. -/
theorem empty (nonces : NonceSupply) (masterKey : Option SealingKey) (table : Table) :
    Backed ⟨nonces, masterKey, ∅⟩ table := by
  intro handle category known
  cases known

end Memory.Backed

/-- What some exchanges leave of a database that was ready, and a memory after them. The memory is
of no use after a panic. -/
structure Orderly (table : Table) (exchanges : List Exchange) (next : UInt32) (panics : Bool)
    (after : Memory) : Prop where
  /-- The database is ready all the time, and its counter never runs ahead. -/
  throughout : Throughout (Table.ReadyUpTo next.toNat) exchanges table
  ready : (afterAll exchanges table).Ready next
  backed : panics = false → after.Backed (afterAll exchanges table)

namespace Orderly

variable {table : Table} {exchanges : List Exchange} {next : UInt32} {panics : Bool}
  {memory after : Memory}

/-- Exchanges that change nothing are orderly. -/
theorem of_unchanged (ready : table.Ready next) (backed : memory.Backed table)
    (unchanged : Throughout (fun other => other = table) exchanges table) :
    Orderly table exchanges next panics memory := by
  refine ⟨unchanged.mono ?_, ?_, fun _ => ?_⟩
  · rintro _ rfl
    exact ready.upTo
  · rw [unchanged.after]
    exact ready
  · rw [unchanged.after]
    exact backed

/-- One exchange more before orderly ones. -/
theorem cons {exchange : Exchange} (ready : table.ReadyUpTo next.toNat)
    (orderly : Orderly (exchange.after table) exchanges next panics after) :
    Orderly table (exchange :: exchanges) next panics after :=
  ⟨⟨ready, orderly.throughout⟩, orderly.ready, orderly.backed⟩

theorem nil (ready : table.Ready next) (backed : panics = false → memory.Backed table) :
    Orderly table [] next panics memory :=
  ⟨ready.upTo, ready, backed⟩

end Orderly

namespace Metadata

/-- The exchanges in which the counter is moved past a number. -/
def counting (number : UInt32) : List Exchange :=
  [.get MetadataItem.nextHandle.key (.done (some (Decimal.render number.toNat))),
    .put MetadataItem.nextHandle.key (Decimal.render (number + 1).toNat) .synced (.done ())]

/-- On a ready database the counter is moved past its number, or nothing is changed. -/
theorem Allocating.of_ready {table : Table} {next : UInt32} {exchanges : List Exchange}
    {ending : Ending Handle} (ready : table.Ready next) (truthful : AllTruthful exchanges table)
    (allocating : Allocating exchanges ending) :
    (Throughout (fun other => other = table) exchanges table ∧
        ∀ handle, ending ≠ .done handle) ∨
      next ≠ lastNumber ∧ ending = .done ⟨next⟩ ∧ exchanges = counting next := by
  cases allocating with
  | unread => exact .inl ⟨⟨rfl, rfl⟩, by simp⟩
  | stopped => exact .inl ⟨⟨rfl, rfl⟩, by simp⟩
  | exhausted => exact .inl ⟨⟨rfl, rfl⟩, by simp⟩
  | @counted reply number written read left =>
    obtain ⟨raw, rfl, parsed⟩ := eq_done_of_reading read
    have stands : some raw = table.get? MetadataItem.nextHandle.key := truthful.1
    rw [ready.counter] at stands
    cases stands
    rw [Decimal.parse?_render] at parsed
    cases parsed
    by_cases works : written = .done ()
    · subst works
      exact .inr ⟨left, rfl, rfl⟩
    · exact .inl ⟨⟨rfl, rfl, after_put_of_ne works⟩, by simp [works]⟩

/-- No blob is written while a handle is given out. -/
theorem Allocating.ne_put_encode {exchanges : List Exchange} {ending : Ending Handle}
    (allocating : Allocating exchanges ending) {exchange : Exchange} (member : exchange ∈ exchanges)
    (category : Category) (number : UInt32) (value : Bytes) (durability : Durability)
    (reply : Reply Unit) :
    exchange ≠ .put (BlobKey.encode category number) value durability reply := by
  rintro rfl
  cases allocating <;> simp [(BlobKey.encode_ne_key category number _)] at member

/-- The database once the counter has been moved past a number. -/
theorem afterAll_counting (number : UInt32) (table : Table) :
    afterAll (counting number) table =
      table.insert MetadataItem.nextHandle.key (Decimal.render (number + 1).toNat) := rfl

end Metadata

/-- The counter is moved before orderly exchanges. -/
theorem Orderly.counting {table : Table} {exchanges : List Exchange} {next : UInt32}
    {panics : Bool} {after : Memory} (ready : table.Ready next) (left : next ≠ Metadata.lastNumber)
    (orderly : Orderly
      (table.insert MetadataItem.nextHandle.key (Decimal.render (next + 1).toNat)) exchanges
      (next + 1) panics after) :
    Orderly table (Metadata.counting next ++ exchanges) (next + 1) panics after := by
  have upTo : table.ReadyUpTo (next + 1).toNat := by
    apply ready.upTo.mono
    rw [Metadata.toNat_add_one left]
    exact Nat.le_succ _
  exact .cons upTo (.cons upTo orderly)

namespace Session

variable {suite : Suite} {table : Table} {next : UInt32} {before after : Memory}
  {exchanges : List Exchange}

/-- To read an internal blob is orderly. -/
theorem Recalling.orderly {number : UInt32} {ending : Ending (Option Bytes)}
    (ready : table.Ready next) (backed : before.Backed table)
    (recalling : Recalling number before exchanges ending after) :
    Orderly table exchanges next ending.panics after := by
  cases recalling
  exact .of_unchanged ready backed ⟨rfl, rfl⟩

/-- To store an internal blob is orderly. -/
theorem Noting.orderly {number : UInt32} {value : Bytes} {ending : Ending Unit}
    (ready : table.Ready next) (backed : before.Backed table)
    (noting : Noting number value before exchanges ending after) :
    Orderly table exchanges next ending.panics after := by
  cases noting with
  | @written reply =>
    by_cases works : reply = .done ()
    · subst works
      refine .cons ready.upTo (.nil (ready.storeInternal number value) fun _ => backed.mono ?_)
      exact fun _ _ stored => Table.stores_insert_encode.2 (.inr stored)
    · exact .of_unchanged ready backed ⟨rfl, after_put_of_ne works⟩

/-- A blob is only accepted in place of an object of its own category. -/
theorem known_of_accepts {memory : Memory} {handle : Handle} {isPrivate : Bool}
    (fits : (memory.categoryOf handle).accepts isPrivate = true) :
    memory.categories.get? handle = some (.ofPrivacy isPrivate) := by
  have category := Category.accepts_iff.1 fits
  unfold Memory.categoryOf at category
  cases known : memory.categories.get? handle with
  | some found => simpa [known] using category
  | none =>
    rw [known] at category
    cases isPrivate <;> cases category

/-- Nothing is written but the object, in the category of its privacy. -/
theorem Updating.target {handle : Handle} {blob : Blob} {ending : Ending Unit}
    (updating : Updating suite handle blob before exchanges ending after) :
    ∀ exchange ∈ exchanges, ∃ envelope reply, exchange =
      .put (BlobKey.encode (.ofPrivacy blob.isPrivate) handle.number) envelope .synced reply := by
  cases updating with
  | mismatched => simp
  | unsealed => simp
  | written fits =>
    intro exchange member
    rw [List.mem_singleton.1 member, Category.accepts_iff.1 fits]
    exact ⟨_, _, rfl⟩

/-- An object is replaced in the category known for it, or nothing is changed. What is known is
the same afterwards. -/
theorem Updating.effect {handle : Handle} {blob : Blob} {ending : Ending Unit}
    (updating : Updating suite handle blob before exchanges ending after) :
    after = { before with nonces := after.nonces } ∧
      ((∀ table, Throughout (fun other => other = table) exchanges table) ∧ ending ≠ .done () ∨
        before.categories.get? handle = some (.ofPrivacy blob.isPrivate) ∧ ending = .done () ∧
          ∃ envelope, exchanges =
            [.put (BlobKey.encode (.ofPrivacy blob.isPrivate) handle.number) envelope .synced
              (.done ())]) := by
  cases updating with
  | mismatched => exact ⟨rfl, .inl ⟨fun _ => rfl, by simp⟩⟩
  | unsealed => exact ⟨rfl, .inl ⟨fun _ => rfl, by simp⟩⟩
  | @written envelope nonces reply fits =>
    refine ⟨rfl, ?_⟩
    by_cases works : reply = .done ()
    · subst works
      rw [Category.accepts_iff.1 fits]
      exact .inr ⟨known_of_accepts fits, rfl, _, rfl⟩
    · exact .inl ⟨fun _ => ⟨rfl, after_put_of_ne works⟩, by simp [works]⟩

/-- The object in place of which another one is stored is there, and in its category only. -/
theorem store_known {handle : Handle} {isPrivate : Bool} (ready : table.Ready next)
    (backed : before.Backed table)
    (known : before.categories.get? handle = some (.ofPrivacy isPrivate)) (value : Bytes) :
    Table.Ready (table.insert (BlobKey.encode (.ofPrivacy isPrivate) handle.number) value)
      next := by
  obtain ⟨isObject, stored, _⟩ := backed _ _ known
  obtain ⟨positive, given⟩ := ready.below isObject stored
  exact ready.store positive given (ready.not_stores_other stored) value

/-- To replace an object is orderly, as the category known for it is that of the new one. -/
theorem Updating.orderly {handle : Handle} {blob : Blob} {ending : Ending Unit}
    (ready : table.Ready next) (backed : before.Backed table)
    (updating : Updating suite handle blob before exchanges ending after) :
    Orderly table exchanges next ending.panics after := by
  obtain ⟨same, ⟨unchanged, _⟩ | ⟨known, rfl, envelope, rfl⟩⟩ := updating.effect
  · rw [same]
    exact .of_unchanged ready backed (unchanged table)
  · refine .cons ready.upTo (.nil (store_known ready backed known envelope) fun _ => ?_)
    rw [same]
    exact backed.mono fun _ _ stored => Table.stores_insert_encode.2 (.inr stored)

/-- How a new object is stored in a database whose counter stands at a number. -/
inductive Placing (table : Table) (next : UInt32) (blob : Blob) (before : Memory) :
    List Exchange → Ending Handle → Memory → Prop where
  | refused {exchanges ending}
      (quiet : ∀ exchange ∈ exchanges, ∀ category number value durability reply,
        exchange ≠ .put (BlobKey.encode category number) value durability reply)
      (unchanged : Throughout (fun other => other = table) exchanges table)
      (failing : ∀ handle, ending ≠ .done handle) :
      Placing table next blob before exchanges ending before
  /-- The number is spent on the object, which is not stored. -/
  | spent {exchanges ending after} (left : next ≠ Metadata.lastNumber)
      (target : ∀ exchange ∈ exchanges, ∃ envelope reply, exchange =
        .put (BlobKey.encode (.ofPrivacy blob.isPrivate) next) envelope .synced reply)
      (unchanged : ∀ table, Throughout (fun other => other = table) exchanges table)
      (failing : ∀ handle, ending ≠ .done handle) (sameKey : after.masterKey = before.masterKey)
      (forgotten : ending.panics = false → after.categories = before.categories) :
      Placing table next blob before (Metadata.counting next ++ exchanges) ending after
  | stored {envelope nonces} (left : next ≠ Metadata.lastNumber)
      (keyed : blob.isPrivate = true → before.masterKey.isSome) :
      Placing table next blob before
        (Metadata.counting next ++
          [.put (BlobKey.encode (.ofPrivacy blob.isPrivate) next) envelope .synced (.done ())])
        (.done ⟨next⟩) { before.knowing ⟨next⟩ (.ofPrivacy blob.isPrivate) with nonces }

/-- A handle that was not given out is not known. -/
theorem get?_next_eq_none (ready : table.Ready next) (backed : before.Backed table) :
    before.categories.get? ⟨next⟩ = none := by
  cases known : before.categories.get? ⟨next⟩ with
  | none => rfl
  | some category =>
    obtain ⟨isObject, stored, _⟩ := backed _ _ known
    exact absurd (ready.below isObject stored).2 (Nat.lt_irrefl _)

/-- To forget what has just been learnt restores what was known. -/
theorem categories_without_knowing {handle : Handle} (category : Category)
    (unknown : before.categories.get? handle = none) :
    ((before.knowing handle category).without handle).categories = before.categories := by
  apply SortedMap.ext_get?
  intro other
  by_cases same : other = handle
  · subst same
    rw [unknown]
    exact SortedMap.get?_erase_self _ _
  · rw [Memory.without, SortedMap.get?_erase_of_ne _ same]
    exact SortedMap.get?_insert_of_ne _ _ same

/-- On a ready database a new object is stored in one of the ways of `Placing`. -/
theorem Inserting.placing {blob : Blob} {ending : Ending Handle} (ready : table.Ready next)
    (backed : before.Backed table) (truthful : AllTruthful exchanges table)
    (inserting : Inserting suite blob before exchanges ending after) :
    Placing table next blob before exchanges ending after := by
  cases inserting with
  | keyless => exact .refused (by simp) rfl (by simp)
  | unallocated keyed allocating =>
    rcases allocating.of_ready ready truthful with ⟨unchanged, failing⟩ | ⟨_, impossible, _⟩
    · exact .refused (fun _ => allocating.ne_put_encode) unchanged (by simp)
    · cases impossible
  | stoppedEarly keyed allocating =>
    rcases allocating.of_ready ready truthful with ⟨unchanged, failing⟩ | ⟨_, impossible, _⟩
    · exact .refused (fun _ => allocating.ne_put_encode) unchanged (by simp)
    · cases impossible
  | unstored keyed allocating updating =>
    rcases allocating.of_ready ready (allTruthful_append.1 truthful).1 with
      ⟨_, failing⟩ | ⟨left, given, rfl⟩
    · exact absurd rfl (failing _)
    cases given
    obtain ⟨same, ⟨unchanged, _⟩ | ⟨_, impossible, _⟩⟩ := updating.effect
    · refine .spent left updating.target unchanged (by simp) ?_ fun _ => ?_
      · rw [same]
        rfl
      · rw [same]
        exact categories_without_knowing _ (get?_next_eq_none ready backed)
    · cases impossible
  | stopped keyed allocating updating =>
    rcases allocating.of_ready ready (allTruthful_append.1 truthful).1 with
      ⟨_, failing⟩ | ⟨left, given, rfl⟩
    · exact absurd rfl (failing _)
    cases given
    obtain ⟨same, ⟨unchanged, _⟩ | ⟨_, impossible, _⟩⟩ := updating.effect
    · refine .spent left updating.target unchanged (by simp) ?_ (by simp [Ending.panics])
      rw [same]
      rfl
    · cases impossible
  | stored keyed allocating updating =>
    rcases allocating.of_ready ready (allTruthful_append.1 truthful).1 with
      ⟨_, failing⟩ | ⟨left, given, rfl⟩
    · exact absurd rfl (failing _)
    cases given
    obtain ⟨same, ⟨_, impossible⟩ | ⟨_, _, envelope, rfl⟩⟩ := updating.effect
    · exact absurd rfl impossible
    · rw [same]
      exact .stored left keyed

/-- To store a new object is orderly. If it is not stored, only the counter has moved. -/
theorem Placing.orderly {blob : Blob} {ending : Ending Handle} (ready : table.Ready next)
    (backed : before.Backed table)
    (placing : Placing table next blob before exchanges ending after) :
    ∃ later, Orderly table exchanges later ending.panics after := by
  have counted : before.Backed
      (table.insert MetadataItem.nextHandle.key (Decimal.render (next + 1).toNat)) :=
    backed.mono fun _ _ stored => Table.stores_insert_key.2 stored
  cases placing with
  | refused quiet unchanged => exact ⟨next, .of_unchanged ready backed unchanged⟩
  | spent left target unchanged failing sameKey forgotten =>
    have advanced := ready.advance left
    refine ⟨next + 1, .counting ready left ⟨(unchanged _).mono ?_, ?_, fun returns => ?_⟩⟩
    · rintro _ rfl
      exact advanced.upTo
    · rw [(unchanged _).after]
      exact advanced
    · rw [(unchanged _).after]
      intro handle category known
      rw [forgotten returns] at known
      rw [sameKey]
      exact counted handle category known
  | @stored envelope nonces left keyed =>
    have advanced := ready.advance left
    have isObject := Category.ofPrivacy_ne_internal
    have free {category : Category} (isObject : category ≠ .internal) : ¬ Table.Stores
        (table.insert MetadataItem.nextHandle.key (Decimal.render (next + 1).toNat))
        category next := by
      intro stored
      exact absurd (ready.below isObject (Table.stores_insert_key.1 stored)).2 (Nat.lt_irrefl _)
    have given : next.toNat < (next + 1).toNat := by
      rw [Metadata.toNat_add_one left]
      exact Nat.lt_succ_self _
    refine ⟨next + 1, .counting ready left (.cons advanced.upTo (.nil ?_ fun _ => ?_))⟩
    · exact advanced.store ready.positive given (free (isObject _)) envelope
    · refine Memory.Backed.knowing ?_ ⟨next⟩ (isObject _) ?_ ?_
      · exact counted.mono fun _ _ stored => Table.stores_insert_encode.2 (.inr stored)
      · exact Table.stores_insert_encode.2 (.inl ⟨rfl, rfl⟩)
      · intro isPrivate
        apply keyed
        cases privacy : blob.isPrivate with
        | true => rfl
        | false => simp [privacy, Category.ofPrivacy] at isPrivate

/-- To delete a blob is orderly, as its handle is forgotten. -/
theorem Deleting.orderly {handle : Handle} {ending : Ending Unit} (ready : table.Ready next)
    (backed : before.Backed table) (deleting : Deleting handle before exchanges ending after) :
    Orderly table exchanges next ending.panics after := by
  cases deleting with
  | deleted =>
    exact .cons ready.upTo (.nil (ready.erase _ _) fun _ => backed.without_erase _ _)
  | undeleted failing =>
    exact .of_unchanged ready backed ⟨rfl, after_delete_of_ne failing⟩

/-- A sweep is orderly, deletion by deletion. -/
theorem Sweeping.orderly {blobs : List StoredBlob} {ending : Ending Nat}
    (ready : table.Ready next) (backed : before.Backed table)
    (proper : ∀ blob ∈ blobs, blob.key = BlobKey.encode blob.category blob.handle.number)
    (sweeping : Sweeping blobs before exchanges ending after) :
    Orderly table exchanges next ending.panics after := by
  induction sweeping generalizing table with
  | finished => exact .nil ready fun _ => backed
  | @deleted blob rest before exchanges ending after sweeping ih =>
    have key := proper blob (.head _)
    refine .cons ready.upTo (ih ?_ ?_ fun blob member => proper blob (.tail _ member))
    · rw [key]
      exact ready.erase _ _
    · rw [key]
      exact backed.without_erase _ _
  | @kept blob rest before exchanges error ending after sweeping ih =>
    rw [Ending.panics_map]
    exact .cons ready.upTo (ih ready backed fun blob member => proper blob (.tail _ member))
  | stopped => exact .of_unchanged ready backed ⟨rfl, rfl⟩

end Session

/-- The blobs among some entries have the keys that they are decoded from. -/
theorem StoredBlob.mem_among {entries : List (Bytes × Bytes)} {blob : StoredBlob} :
    blob ∈ among entries ↔ (blob.key, blob.value) ∈ entries ∧
      BlobKey.decode? blob.key = some (blob.category, blob.handle.number) := by
  simp only [among, List.mem_filterMap, ofEntry?, Option.map_eq_some_iff, Prod.exists]
  constructor
  · rintro ⟨key, value, member, category, number, decoded, rfl⟩
    exact ⟨member, decoded⟩
  · rintro ⟨member, decoded⟩
    exact ⟨blob.key, blob.value, member, blob.category, blob.handle.number, decoded, rfl⟩

/-- The blobs that a scan shows are stored, each under the one key of its number. -/
theorem StoredBlob.mem_among_entries {table : Table} (canonical : table.Canonical)
    {blob : StoredBlob} :
    blob ∈ among table.entries ↔ blob.key = BlobKey.encode blob.category blob.handle.number ∧
      table.get? blob.key = some blob.value := by
  rw [mem_among, ← SortedMap.get?_eq_some_iff]
  constructor
  · rintro ⟨stored, decoded⟩
    refine ⟨?_, stored⟩
    rcases canonical _ _ stored with ⟨item, key⟩ | ⟨category, number, key⟩
    · rw [key, BlobKey.decode?_key] at decoded
      cases decoded
    · rw [key, BlobKey.decode?_encode] at decoded
      simp only [Option.some.injEq, Prod.mk.injEq] at decoded
      rw [key, decoded.1, decoded.2]
  · rintro ⟨key, stored⟩
    exact ⟨stored, by rw [key, BlobKey.decode?_encode]⟩

/-- Whether a blob is an object of a database. -/
structure StoredBlob.ObjectOf (table : Table) (blob : StoredBlob) : Prop where
  isObject : blob.isObject = true
  key : blob.key = BlobKey.encode blob.category blob.handle.number
  stored : table.get? blob.key = some blob.value

namespace StoredBlob.ObjectOf

variable {table : Table} {blob : StoredBlob}

theorem category_ne (object : blob.ObjectOf table) : blob.category ≠ .internal := by
  simpa [StoredBlob.isObject] using object.isObject

/-- No object has the key of an internal blob. -/
theorem key_ne_internal (object : blob.ObjectOf table) (number : UInt32) :
    blob.key ≠ BlobKey.encode .internal number := by
  rw [object.key]
  exact BlobKey.encode_ne_of_category object.category_ne _ _

end StoredBlob.ObjectOf

/-- The objects that a scan shows are those of the database. -/
theorem StoredBlob.mem_filter_isObject {table : Table} (canonical : table.Canonical)
    {blob : StoredBlob} :
    blob ∈ (among table.entries).filter isObject ↔ blob.ObjectOf table := by
  rw [List.mem_filter, mem_among_entries canonical]
  constructor
  · rintro ⟨⟨key, stored⟩, isObject⟩
    exact ⟨isObject, key, stored⟩
  · rintro ⟨isObject, key, stored⟩
    exact ⟨⟨key, stored⟩, isObject⟩

/-- The objects of a category that can be read are those whose envelope is opened. -/
theorem StoredBlob.mem_readable {suite : Suite} {master : Option SealingKey} {category : Category}
    {blobs : List StoredBlob} {handle : Handle} {object : Blob} :
    (handle, object) ∈ readable suite master category
        (blobs.filter fun blob => blob.category = category) ↔
      ∃ blob ∈ blobs, blob.category = category ∧ blob.handle = handle ∧
        Envelope.decrypt suite master ⟨category == .privateObject, blob.value⟩ = .ok object := by
  simp only [readable, List.mem_filterMap, List.mem_filter, decide_eq_true_eq]
  constructor
  · rintro ⟨blob, ⟨member, isOf⟩, opens⟩
    refine ⟨blob, member, isOf, ?_⟩
    split at opens
    · next opened =>
      cases opens
      exact ⟨rfl, opened⟩
    · cases opens
  · rintro ⟨blob, member, isOf, rfl, opened⟩
    exact ⟨blob, ⟨member, isOf⟩, by rw [opened]⟩

namespace Session

variable {suite : Suite} {table : Table} {next : UInt32} {before after : Memory}
  {exchanges : List Exchange}

/-- To delete all objects is orderly. -/
theorem DeletingAll.orderly {ending : Ending Unit} (ready : table.Ready next)
    (backed : before.Backed table) (truthful : AllTruthful exchanges table)
    (deleting : DeletingAll before exchanges ending after) :
    Orderly table exchanges next ending.panics after := by
  have proper {seen : Scan} (complete : seen.visited = table.entries) :
      ∀ blob ∈ (StoredBlob.among seen.visited).filter StoredBlob.isObject,
        blob.key = BlobKey.encode blob.category blob.handle.number := by
    intro blob member
    rw [complete] at member
    exact ((StoredBlob.mem_filter_isObject ready.canonical).1 member).key
  cases deleting with
  | unscanned => exact .of_unchanged ready backed ⟨rfl, rfl⟩
  | stopped scanned sweeping =>
    exact .cons ready.upTo (sweeping.orderly ready backed (proper (truthful.1.2 scanned)))
  | @swept seen exchanges failures after scanned sweeping =>
    have orderly := sweeping.orderly ready backed (proper (truthful.1.2 scanned))
    by_cases all : failures = 0
    · rw [if_pos all]
      exact .cons ready.upTo orderly
    · rw [if_neg all]
      exact .cons ready.upTo orderly

/-- What is found is the readable objects of the category among the blobs that the scan shows. -/
theorem mem_found {category : Category} {seen : Scan} {handle : Handle} {object : Blob} :
    (handle, object) ∈ found suite before category seen ↔
      ∃ blob ∈ StoredBlob.among seen.visited, blob.category = category ∧ blob.handle = handle ∧
        Envelope.decrypt suite before.masterKey ⟨category == .privateObject, blob.value⟩ =
          .ok object := StoredBlob.mem_readable

/-- To load objects is orderly, as only those are known afterwards that are stored. -/
theorem Loading.orderly {category : Category} {ending : Ending (SortedMap Handle Blob)}
    (isObject : category ≠ .internal)
    (keyed : category = .privateObject → before.masterKey.isSome) (ready : table.Ready next)
    (backed : before.Backed table) (truthful : AllTruthful exchanges table)
    (loading : Loading suite category before exchanges ending after) :
    Orderly table exchanges next ending.panics after := by
  cases loading with
  | unscanned => exact .of_unchanged ready backed ⟨rfl, rfl⟩
  | @loaded seen scanned =>
    refine .of_unchanged ready ?_ ⟨rfl, rfl⟩
    intro handle other known
    rcases SortedMap.of_get?_insertAll known with member | known
    · obtain ⟨⟨here, object⟩, opened, same⟩ := List.mem_map.1 member
      cases same
      obtain ⟨blob, shown, rfl, rfl, _⟩ := mem_found.1 opened
      rw [truthful.1.2 scanned] at shown
      obtain ⟨key, stored⟩ := (StoredBlob.mem_among_entries ready.canonical).1 shown
      rw [key] at stored
      exact ⟨isObject, ⟨_, stored⟩, keyed⟩
    · exact backed handle other known

end Session

/-- A call of a vault whose database is ready is orderly. -/
theorem Vault.Performing.orderly {suite : Suite} {table : Table} {next : UInt32}
    {before after : Memory} {operation : Operation} {exchanges : List Exchange}
    {ending : Ending Answer} (ready : table.Ready next) (backed : before.Backed table)
    (truthful : AllTruthful exchanges table)
    (performing : Performing suite before operation exchanges ending after) :
    ∃ later, Orderly table exchanges later ending.panics after := by
  cases performing with
  | insert inserting =>
    rw [Ending.panics_map]
    exact (inserting.placing ready backed truthful).orderly ready backed
  | update updating =>
    rw [Ending.panics_map]
    exact ⟨next, updating.orderly ready backed⟩
  | delete deleting =>
    rw [Ending.panics_map]
    exact ⟨next, deleting.orderly ready backed⟩
  | deleteAll deleting =>
    rw [Ending.panics_map]
    exact ⟨next, deleting.orderly ready backed truthful⟩
  | loadPublic loading =>
    rw [Ending.panics_map]
    exact ⟨next, loading.orderly (by simp) (by simp) ready backed truthful⟩
  | loadPrivate loading =>
    rw [Ending.panics_map]
    refine ⟨next, ?_⟩
    cases loading with
    | keyless => exact .nil ready fun _ => backed
    | keyed set loading => exact loading.orderly (by simp) (fun _ => set) ready backed truthful
  | getInternal recalling =>
    rw [Ending.panics_map]
    exact ⟨next, recalling.orderly ready backed⟩
  | setInternal noting =>
    rw [Ending.panics_map]
    exact ⟨next, noting.orderly ready backed⟩
  | setMasterKey => exact ⟨next, .nil ready fun _ => backed.unlocked _⟩
  | unfitKey => exact ⟨next, .nil ready fun _ => backed⟩
  | hasMasterKey => exact ⟨next, .nil ready fun _ => backed⟩
  | formatVersion => exact ⟨next, .of_unchanged ready backed ⟨rfl, rfl⟩⟩

namespace Metadata

variable {table : Table} {exchanges : List Exchange}

/-- A blank database stays settled while its metadata is written, and its counter stands at the
first handle. -/
theorem SettingUp.settled {ending : Ending Unit} (blank : table.Blank)
    (setting : SettingUp exchanges ending) :
    Throughout (fun other => other.Settled ∧ other.level = 1) exchanges table ∧
      (ending = .done () → ∃ next, (afterAll exchanges table).Ready next) := by
  have counted := blank.count
  cases setting with
  | @uncounted written unwritten =>
    refine ⟨⟨⟨.inl blank, blank.level⟩, ?_⟩, by simp [unwritten]⟩
    rw [Throughout, after_put_of_ne unwritten]
    exact ⟨.inl blank, blank.level⟩
  | @counted written =>
    refine ⟨⟨⟨.inl blank, blank.level⟩, ⟨.inl counted, counted.level⟩, ?_⟩, ?_⟩
    · by_cases works : written = .done ()
      · subst works
        have ready := counted.ready (SortedMap.get?_insert_self _ _ _)
        exact ⟨.inr ⟨_, ready⟩, ready.level⟩
      · rw [Throughout, after_put_of_ne works]
        exact ⟨.inl counted, counted.level⟩
    · intro done
      rw [Reply.ending_eq_done.1 done]
      exact ⟨_, counted.ready (SortedMap.get?_insert_self _ _ _)⟩

/-- A database stays settled while it is initialized, its counter stands where it stood, and it is
ready if that ends well. -/
theorem Initializing.settled {ending : Ending Bool} (settled : table.Settled)
    (truthful : AllTruthful exchanges table) (initializing : Initializing exchanges ending) :
    Throughout (fun other => other.Settled ∧ other.level = table.level) exchanges table ∧
      ∀ isNew, ending = .done isNew → ∃ next, (afterAll exchanges table).Ready next := by
  have same : table.Settled ∧ table.level = table.level := ⟨settled, rfl⟩
  cases initializing with
  | unknown => exact ⟨⟨same, same⟩, by simp⟩
  | stopped => exact ⟨⟨same, same⟩, by simp⟩
  | already =>
    refine ⟨⟨same, same⟩, fun _ _ => ?_⟩
    have stored := truthful.1
    rcases settled with blank | ready
    · have sameKey := BlobKey.key_inj.1 (blank.only _ _ stored.symm)
      cases sameKey
    · exact ready
  | @settingUp exchanges ending setting =>
    have absent : none = table.get? MetadataItem.formatVersion.key := truthful.1
    rcases settled with blank | ⟨next, ready⟩
    · obtain ⟨throughout, initialized⟩ := setting.settled blank
      rw [blank.level]
      refine ⟨⟨⟨.inl blank, blank.level⟩, throughout⟩, fun isNew done => initialized ?_⟩
      cases ending with
      | done => rfl
      | failed error => cases done
      | panicked => cases done
    · rw [ready.version] at absent
      cases absent

/-- If every call works, the metadata of a database is written. -/
theorem SettingUp.of_succeed {ending : Ending Unit}
    (succeed : ∀ exchange ∈ exchanges, exchange.Succeeds) (setting : SettingUp exchanges ending) :
    ending = .done () ∧ ∀ table, afterAll exchanges table =
      (table.insert MetadataItem.nextHandle.key (Decimal.render firstHandle.toNat)).insert
        MetadataItem.formatVersion.key (Decimal.render formatVersion.toNat) := by
  cases setting with
  | uncounted unwritten => exact absurd (succeed _ (.head _)) unwritten
  | counted =>
    have works : _ = Reply.done () := succeed _ (.tail _ (.head _))
    subst works
    exact ⟨rfl, fun _ => rfl⟩

namespace Initializing

variable {ending : Ending Bool}

/-- If every call works, a database that has a version is left alone, and the metadata of any other
is written. -/
theorem of_succeed (truthful : AllTruthful exchanges table)
    (succeed : ∀ exchange ∈ exchanges, exchange.Succeeds)
    (initializing : Initializing exchanges ending) :
    (table.get? MetadataItem.formatVersion.key ≠ none ∧ ending = .done false ∧
      afterAll exchanges table = table) ∨
    (table.get? MetadataItem.formatVersion.key = none ∧ ending = .done true ∧
      afterAll exchanges table =
        (table.insert MetadataItem.nextHandle.key (Decimal.render firstHandle.toNat)).insert
          MetadataItem.formatVersion.key (Decimal.render formatVersion.toNat)) := by
  cases initializing with
  | unknown =>
    obtain ⟨_, impossible⟩ := succeed _ (.head _)
    cases impossible
  | stopped =>
    obtain ⟨_, impossible⟩ := succeed _ (.head _)
    cases impossible
  | already =>
    have present : some _ = table.get? MetadataItem.formatVersion.key := truthful.1
    rw [← present]
    exact .inl ⟨nofun, rfl, rfl⟩
  | settingUp setting =>
    have absent : none = table.get? MetadataItem.formatVersion.key := truthful.1
    obtain ⟨rfl, written⟩ := setting.of_succeed fun exchange member =>
      succeed exchange (.tail _ member)
    exact .inr ⟨absent.symm, rfl, written table⟩

/-- If every call works, a blank database is new and is ready afterwards. -/
theorem of_blank (blank : table.Blank) (truthful : AllTruthful exchanges table)
    (succeed : ∀ exchange ∈ exchanges, exchange.Succeeds)
    (initializing : Initializing exchanges ending) :
    ending = .done true ∧ (afterAll exchanges table).Ready firstHandle ∧
      ∀ category number, ¬ (afterAll exchanges table).Stores category number := by
  rcases initializing.of_succeed truthful succeed with ⟨present, _⟩ | ⟨_, done, written⟩
  · obtain ⟨version, stored⟩ := Option.ne_none_iff_exists'.1 present
    have impossible := BlobKey.key_inj.1 (blank.only _ _ stored)
    cases impossible
  · rw [written]
    refine ⟨done, blank.count.ready (SortedMap.get?_insert_self _ _ _), fun category number => ?_⟩
    rw [Table.stores_insert_key, Table.stores_insert_key]
    exact blank.not_stores

/-- If every call works, a ready database is not new and stays as it is. -/
theorem of_ready {next : UInt32} (ready : table.Ready next)
    (truthful : AllTruthful exchanges table)
    (succeed : ∀ exchange ∈ exchanges, exchange.Succeeds)
    (initializing : Initializing exchanges ending) :
    ending = .done false ∧ afterAll exchanges table = table := by
  rcases initializing.of_succeed truthful succeed with ⟨_, done, same⟩ | ⟨absent, _⟩
  · exact ⟨done, same⟩
  · rw [ready.version] at absent
    cases absent

end Initializing

end Metadata

/-- Whether a vault and its database agree: an open vault has a database that is ready, and knows
only what is stored there. -/
def Standing.Coherent : Standing → Table → Prop
  | .closed _, table => table.Settled
  | .broken _, table => ∃ next, table.Ready next
  | .working memory, table => (∃ next, table.Ready next) ∧ memory.Backed table

/-- A database with which a vault agrees is settled. -/
theorem Standing.Coherent.settled {standing : Standing} {table : Table}
    (coherent : standing.Coherent table) : table.Settled := by
  cases standing with
  | closed => exact coherent
  | broken => exact .inr coherent
  | working => exact .inr coherent.1

/-- A database whose counter stays where it is does not run ahead. -/
theorem Exchange.Throughout.upTo {table : Table} {exchanges : List Exchange} {level : Nat}
    (throughout : Throughout (fun other => other.Settled ∧ other.level = level) exchanges table) :
    Throughout (Table.SettledUpTo (afterAll exchanges table).level) exchanges table := by
  rw [throughout.after.2]
  exact throughout.mono fun _ settled => ⟨settled.1, Nat.le_of_eq settled.2⟩

/-- Every step keeps a vault and its database coherent, and the database settled all the time. -/
theorem Lifetime.Going.coherent {setting : Setting} {before after : Standing} {step : Step}
    {exchanges : List Exchange} {outcome : Outcome} {table : Table}
    (coherent : before.Coherent table) (truthful : AllTruthful exchanges table)
    (going : Going setting before step exchanges outcome after) :
    Throughout (Table.SettledUpTo (afterAll exchanges table).level) exchanges table ∧
      after.Coherent (afterAll exchanges table) := by
  cases going with
  | idle => exact ⟨Table.Settled.upTo coherent, coherent⟩
  | refused => exact ⟨Table.Settled.upTo (.inr coherent), coherent⟩
  | @performed memory operation exchanges ending after performing =>
    obtain ⟨⟨next, ready⟩, backed⟩ := coherent
    obtain ⟨later, orderly⟩ := performing.orderly ready backed truthful
    rw [orderly.ready.level]
    refine ⟨orderly.throughout.mono fun _ => Table.ReadyUpTo.settled, ?_⟩
    cases panics : ending.panics with
    | true => exact ⟨later, orderly.ready⟩
    | false => exact ⟨⟨later, orderly.ready⟩, orderly.backed panics⟩
  | unopened opening =>
    cases opening with
    | refused => exact ⟨coherent.settled.upTo, coherent.settled⟩
    | initializing direct initializing =>
      have settled := (initializing.settled coherent.settled truthful).1
      exact ⟨settled.upTo, settled.after.1⟩
  | @opened _ _ _ exchanges opened opening =>
    generalize outcome : Ending.done opened = ending at opening
    cases opening with
    | refused => cases outcome
    | @initializing recovery exchanges ending direct initializing =>
      obtain ⟨settled, ready⟩ := initializing.settled coherent.settled truthful
      obtain ⟨isNew, done, _⟩ := Ending.map_eq_done.1 outcome.symm
      exact ⟨settled.upTo, ready isNew done, Memory.Backed.empty _ _ _⟩

end ObjectVault
