import ObjectVault.Proofs.Plain
import ObjectVault.Proofs.Reachable

/-!
# Mirrors of plain vaults

`Plain.StoredIn` says that a database holds what a plain vault does, and `Plain.Mirrors` that a
session keeps in mind what it should as well. If every call of the database works, each call of the
session keeps both, and its answer is the plain one. The cipher has to be fair to the program: it
takes the payloads in use, undoes itself, and does not confuse the master keys in use.
-/

namespace ObjectVault

open Exchange Lifetime

/-- What a program and its vault bring to the cipher. -/
structure Circumstances where
  suite : Suite
  /-- The nonce that is drawn after so many others. -/
  nonce : Nat → Nonce
  keys : List SealingKey
  payloads : List Bytes

namespace Circumstances

/-- Whether the cipher serves a program well. -/
structure Fair (circumstances : Circumstances) : Prop where
  /-- What was encrypted is decrypted again. -/
  undoes : circumstances.suite.Undoes
  /-- All payloads in use are encrypted. -/
  accepts : ∀ payload ∈ circumstances.payloads, circumstances.suite.Accepts payload
  /-- What is sealed under one master key has another digest under every other one. -/
  apart : ∀ key ∈ circumstances.keys, ∀ other ∈ circumstances.keys, key ≠ other →
    ∀ index, ∀ payload ∈ circumstances.payloads, ∀ body,
      circumstances.suite.encrypt? key (circumstances.nonce index) payload = some body →
        circumstances.suite.tag other (Envelope.signed (circumstances.nonce index) body) ≠
          circumstances.suite.tag key (Envelope.signed (circumstances.nonce index) body)

end Circumstances

namespace Plain

variable {circumstances : Circumstances} {plain : Plain} {table : Table}

/-- Whether an object is one that the program may have stored. -/
structure Regular (circumstances : Circumstances) (object : PlainObject) : Prop where
  payload : object.payload ∈ circumstances.payloads
  privateKey : object.isPrivate = true → object.sealedUnder ∈ circumstances.keys
  publicKey : object.isPrivate = false → object.sealedUnder = .obfuscation

/-- Whether bytes are an envelope of an object. -/
def SealedAs (circumstances : Circumstances) (object : PlainObject) (envelope : Bytes) : Prop :=
  ∃ index, Envelope.write circumstances.suite object.sealedUnder (circumstances.nonce index)
    object.payload = .ok envelope

/-- Whether a database holds what a plain vault does. -/
structure StoredIn (circumstances : Circumstances) (plain : Plain) (table : Table) : Prop where
  ready : table.Ready plain.next
  internal : ∀ number,
    table.get? (BlobKey.encode .internal number) = plain.internal.get? number
  stored : ∀ handle object, plain.objects.get? handle = some object → ∃ envelope,
    table.get? (BlobKey.encode (.ofPrivacy object.isPrivate) handle.number) = some envelope ∧
      SealedAs circumstances object envelope
  covered : ∀ handle isPrivate, table.Stores (.ofPrivacy isPrivate) handle.number →
    ∃ object, plain.objects.get? handle = some object ∧ object.isPrivate = isPrivate
  regular : ∀ handle object, plain.objects.get? handle = some object →
    Regular circumstances object

/-- Whether a database and what a session keeps in mind are those of a plain vault. -/
structure Mirrors (circumstances : Circumstances) (plain : Plain) (memory : Memory)
    (table : Table) : Prop where
  storedIn : StoredIn circumstances plain table
  backed : memory.Backed table
  stream : memory.nonces.nonce = circumstances.nonce
  masterKey : memory.masterKey = plain.masterKey
  known : memory.categories = plain.known
  inUse : ∀ key, plain.masterKey = some key → key ∈ circumstances.keys

namespace StoredIn

/-- An internal blob is stored. -/
theorem setInternal (storedIn : StoredIn circumstances plain table) (number : UInt32)
    (value : Bytes) :
    StoredIn circumstances { plain with internal := plain.internal.insert number value }
      (table.insert (BlobKey.encode .internal number) value) where
  ready := storedIn.ready.storeInternal number value
  internal := by
    intro other
    by_cases same : other = number
    · subst same
      simp
    · rw [SortedMap.get?_insert_of_ne _ _ same, SortedMap.get?_insert_of_ne, storedIn.internal]
      apply BlobKey.encode_ne_of_number same
  stored := by
    intro handle object found
    rw [SortedMap.get?_insert_of_ne]
    · exact storedIn.stored handle object found
    · apply BlobKey.encode_ne_of_category
      exact Category.ofPrivacy_ne_internal _
  covered := by
    intro handle isPrivate stores
    rcases Table.stores_insert_encode.1 stores with ⟨isInternal, _⟩ | stores
    · exact absurd isInternal (Category.ofPrivacy_ne_internal _)
    · exact storedIn.covered handle isPrivate stores
  regular := storedIn.regular

/-- An internal blob is removed. -/
theorem eraseInternal (storedIn : StoredIn circumstances plain table) (number : UInt32) :
    StoredIn circumstances { plain with internal := plain.internal.erase number }
      (SortedMap.erase table (BlobKey.encode .internal number)) where
  ready := storedIn.ready.erase _ _
  internal := by
    intro other
    by_cases same : other = number
    · subst same
      simp
    · rw [SortedMap.get?_erase_of_ne _ same, SortedMap.get?_erase_of_ne, storedIn.internal]
      apply BlobKey.encode_ne_of_number same
  stored := by
    intro handle object found
    rw [SortedMap.get?_erase_of_ne]
    · exact storedIn.stored handle object found
    · apply BlobKey.encode_ne_of_category
      exact Category.ofPrivacy_ne_internal _
  covered handle isPrivate stores :=
    storedIn.covered handle isPrivate (Table.stores_erase_encode.1 stores).2
  regular := storedIn.regular

/-- An object is stored in place of one of the same privacy, or where there is none. -/
theorem store (storedIn : StoredIn circumstances plain table) (handle : Handle)
    {object : PlainObject} {envelope : Bytes} (regular : Regular circumstances object)
    (sealing : SealedAs circumstances object envelope)
    (free : ¬ table.Stores (.ofPrivacy !object.isPrivate) handle.number)
    (ready : Table.Ready (table.insert
      (BlobKey.encode (.ofPrivacy object.isPrivate) handle.number) envelope) plain.next) :
    StoredIn circumstances { plain with objects := plain.objects.insert handle object }
      (table.insert (BlobKey.encode (.ofPrivacy object.isPrivate) handle.number) envelope) where
  ready := ready
  internal := by
    intro number
    rw [SortedMap.get?_insert_of_ne]
    · exact storedIn.internal number
    · apply BlobKey.encode_ne_of_category
      exact (Category.ofPrivacy_ne_internal _).symm
  stored := by
    intro other found isThere
    rcases SortedMap.of_get?_insert isThere with ⟨rfl, rfl⟩ | ⟨differs, isThere⟩
    · exact ⟨envelope, SortedMap.get?_insert_self _ _ _, sealing⟩
    · rw [SortedMap.get?_insert_of_ne]
      · exact storedIn.stored other found isThere
      · apply BlobKey.encode_ne_of_number
        exact fun same => differs (Handle.ext same)
  covered := by
    intro other isPrivate stores
    by_cases same : other = handle
    · subst same
      refine ⟨object, SortedMap.get?_insert_self _ _ _, ?_⟩
      rcases Table.stores_insert_encode.1 stores with ⟨here, _⟩ | stores
      · exact (Category.ofPrivacy_inj.1 here).symm
      · by_cases privacy : object.isPrivate = isPrivate
        · exact privacy
        · rw [Bool.eq_not.2 (Ne.symm privacy)] at stores
          exact absurd stores free
    · rw [SortedMap.get?_insert_of_ne _ _ same]
      rcases Table.stores_insert_encode.1 stores with ⟨_, here⟩ | stores
      · exact absurd (Handle.ext here) same
      · exact storedIn.covered other isPrivate stores
  regular := by
    intro other found isThere
    rcases SortedMap.of_get?_insert isThere with ⟨_, rfl⟩ | ⟨_, isThere⟩
    · exact regular
    · exact storedIn.regular other found isThere

/-- An object is removed. -/
theorem erase (storedIn : StoredIn circumstances plain table) {handle : Handle} {isPrivate : Bool}
    (stores : table.Stores (.ofPrivacy isPrivate) handle.number) :
    StoredIn circumstances { plain with objects := plain.objects.erase handle }
      (SortedMap.erase table (BlobKey.encode (.ofPrivacy isPrivate) handle.number)) where
  ready := storedIn.ready.erase _ _
  internal := by
    intro number
    rw [SortedMap.get?_erase_of_ne]
    · exact storedIn.internal number
    · apply BlobKey.encode_ne_of_category
      exact (Category.ofPrivacy_ne_internal _).symm
  stored := by
    intro other found isThere
    obtain ⟨differs, isThere⟩ := SortedMap.of_get?_erase isThere
    rw [SortedMap.get?_erase_of_ne]
    · exact storedIn.stored other found isThere
    · apply BlobKey.encode_ne_of_number
      exact fun same => differs (Handle.ext same)
  covered := by
    intro other privacy remains
    obtain ⟨differs, storesOther⟩ := Table.stores_erase_encode.1 remains
    have differentHandle : other ≠ handle := by
      rintro rfl
      have differentPrivacy : privacy ≠ isPrivate := fun same => differs ⟨by rw [same], rfl⟩
      rw [Bool.eq_not.2 differentPrivacy] at storesOther
      exact storedIn.ready.not_stores_other stores storesOther
    rw [SortedMap.get?_erase_of_ne _ differentHandle]
    exact storedIn.covered other privacy storesOther
  regular other found isThere :=
    storedIn.regular other found (SortedMap.of_get?_erase isThere).2

/-- The counter is moved past its number. -/
theorem count (storedIn : StoredIn circumstances plain table)
    (left : plain.next ≠ Metadata.lastNumber) :
    StoredIn circumstances { plain with next := plain.next + 1 }
      (table.insert MetadataItem.nextHandle.key (Decimal.render (plain.next + 1).toNat)) where
  ready := storedIn.ready.advance left
  internal := by
    intro number
    rw [SortedMap.get?_insert_of_ne _ _ (BlobKey.encode_ne_key _ _ _)]
    exact storedIn.internal number
  stored := by
    intro handle object found
    rw [SortedMap.get?_insert_of_ne _ _ (BlobKey.encode_ne_key _ _ _)]
    exact storedIn.stored handle object found
  covered handle isPrivate stores :=
    storedIn.covered handle isPrivate (Table.stores_insert_key.1 stores)
  regular := storedIn.regular

/-- All objects are removed, and nothing else is. -/
theorem deleteAll (storedIn : StoredIn circumstances plain table) {later : Table}
    (ready : later.Ready plain.next)
    (kept : ∀ number, later.get? (BlobKey.encode .internal number) =
      table.get? (BlobKey.encode .internal number))
    (removed : ∀ isPrivate number, ¬ later.Stores (.ofPrivacy isPrivate) number) :
    StoredIn circumstances { plain with objects := ∅, known := ∅ } later where
  ready := ready
  internal := by
    intro number
    rw [kept, storedIn.internal]
  stored := by
    intro handle object found
    cases found
  covered handle isPrivate stores := absurd stores (removed isPrivate handle.number)
  regular := by
    intro handle object found
    cases found

/-- What is stored does not depend on what the session keeps in mind. -/
theorem of_same {other : Plain} (storedIn : StoredIn circumstances plain table)
    (next : other.next = plain.next) (internal : other.internal = plain.internal)
    (objects : other.objects = plain.objects) : StoredIn circumstances other table where
  ready := by
    rw [next]
    exact storedIn.ready
  internal := by
    rw [internal]
    exact storedIn.internal
  stored := by
    rw [objects]
    exact storedIn.stored
  covered := by
    rw [objects]
    exact storedIn.covered
  regular := by
    rw [objects]
    exact storedIn.regular

/-- There is no object under a handle that was not given out. -/
theorem not_stores_next (storedIn : StoredIn circumstances plain table) (isPrivate : Bool) :
    ¬ table.Stores (.ofPrivacy isPrivate) plain.next := by
  intro stores
  exact Nat.lt_irrefl _ (storedIn.ready.below (Category.ofPrivacy_ne_internal _) stores).2

end StoredIn

end Plain

/-- If every call works, a handle is given out unless there is none left. -/
theorem Metadata.Allocating.of_succeed {table : Table} {next : UInt32}
    {exchanges : List Exchange} {ending : Ending Handle} (ready : table.Ready next)
    (truthful : AllTruthful exchanges table) (succeed : ∀ exchange ∈ exchanges, exchange.Succeeds)
    (allocating : Allocating exchanges ending) :
    (next = lastNumber ∧ ending = .failed .idSpaceExhausted ∧ afterAll exchanges table = table) ∨
      (next ≠ lastNumber ∧ ending = .done ⟨next⟩ ∧ exchanges = counting next) := by
  have stands {reply : Reply (Option Bytes)} (answered : ∃ value, reply = .done value)
      (met : (Exchange.get MetadataItem.nextHandle.key reply).Truthful table) :
      reading .nextHandle reply = .done next := by
    obtain ⟨value, rfl⟩ := answered
    have found : value = table.get? MetadataItem.nextHandle.key := met
    rw [found, ready.counter]
    simp [reading, Decimal.parse?_render]
  cases allocating with
  | unread read =>
    rw [stands (succeed _ (.head _)) truthful.1] at read
    cases read
  | stopped =>
    obtain ⟨value, impossible⟩ := succeed _ (.head _)
    cases impossible
  | exhausted read =>
    rw [stands (succeed _ (.head _)) truthful.1] at read
    cases read
    exact .inl ⟨rfl, rfl, rfl⟩
  | counted read left =>
    rw [stands (succeed _ (.head _)) truthful.1] at read
    cases read
    have works : _ = Reply.done () := succeed _ (.tail _ (.head _))
    subst works
    obtain ⟨value, answered⟩ := succeed _ (.head _)
    subst answered
    have found : value = table.get? MetadataItem.nextHandle.key := truthful.1
    rw [found, ready.counter]
    exact .inr ⟨left, rfl, rfl⟩

/-- Every object that is stored is among those that a scan shows. -/
theorem StoredBlob.exists_object {table : Table} (canonical : table.Canonical)
    {category : Category} {number : UInt32} (isObject : category ≠ .internal)
    (stores : table.Stores category number) :
    ∃ blob ∈ (among table.entries).filter StoredBlob.isObject,
      blob.key = BlobKey.encode category number ∧ blob.handle = ⟨number⟩ := by
  obtain ⟨value, stored⟩ := stores
  refine ⟨⟨BlobKey.encode category number, category, ⟨number⟩, value⟩, ?_, rfl, rfl⟩
  rw [mem_filter_isObject canonical]
  exact ⟨by simpa [StoredBlob.isObject] using isObject, rfl, stored⟩

namespace Session

/-- If every call works, the blobs are all deleted, and their handles are forgotten. -/
theorem Sweeping.of_succeed {blobs : List StoredBlob} (table : Table) {before after : Memory}
    {exchanges : List Exchange} {ending : Ending Nat}
    (succeed : ∀ exchange ∈ exchanges, exchange.Succeeds)
    (sweeping : Sweeping blobs before exchanges ending after) :
    ending = .done 0 ∧ after = { before with categories := after.categories } ∧
      (∀ key value, (afterAll exchanges table).get? key = some value ↔
        table.get? key = some value ∧ ∀ blob ∈ blobs, key ≠ blob.key) ∧
      ∀ handle category, after.categories.get? handle = some category ↔
        before.categories.get? handle = some category ∧ ∀ blob ∈ blobs, handle ≠ blob.handle := by
  induction sweeping generalizing table with
  | finished => simp [afterAll]
  | @deleted blob rest before exchanges ending after sweeping ih =>
    obtain ⟨done, same, keys, handles⟩ := ih (table.erase blob.key)
      fun exchange member => succeed exchange (.tail _ member)
    refine ⟨done, same, fun key value => ?_, fun handle category => ?_⟩
    · rw [afterAll, Exchange.after, keys, List.forall_mem_cons]
      by_cases here : key = blob.key
      · simp [here]
      · simp [here, SortedMap.get?_erase_of_ne _ here]
    · rw [handles, List.forall_mem_cons, Memory.without]
      by_cases here : handle = blob.handle
      · simp [here]
      · simp [here, SortedMap.get?_erase_of_ne _ here]
  | kept =>
    have impossible : Reply.failed _ = Reply.done () := succeed _ (.head _)
    cases impossible
  | stopped =>
    have impossible : Reply.panicked = Reply.done () := succeed _ (.head _)
    cases impossible

end Session

namespace Plain

variable {circumstances : Circumstances} {plain : Plain} {table : Table} {memory after : Memory}
  {exchanges : List Exchange}

/-- Whether there is a key for objects of a privacy. -/
def Keyed (plain : Plain) (isPrivate : Bool) : Prop :=
  isPrivate = true → plain.masterKey.isSome = true

theorem Keyed.not_keyless {isPrivate : Bool} (keyed : plain.Keyed isPrivate) :
    ¬ (isPrivate = true ∧ plain.masterKey = none) := by
  rintro ⟨isPrivate, unset⟩
  have set := keyed isPrivate
  rw [unset] at set
  cases set

/-- The key that is selected is the one under which the plain vault seals. -/
theorem select_sealingKey {isPrivate : Bool} (keyed : plain.Keyed isPrivate) :
    SealingKey.select isPrivate plain.masterKey = .ok (plain.sealingKey isPrivate) := by
  cases isPrivate with
  | false => rfl
  | true =>
    obtain ⟨key, set⟩ := Option.isSome_iff_exists.1 (keyed rfl)
    simp [SealingKey.select, sealingKey, set]

/-- An object that the program stores now is one that it may have stored. -/
theorem Mirrors.regular (mirrors : Mirrors circumstances plain memory table) {isPrivate : Bool}
    {payload : Bytes} (used : payload ∈ circumstances.payloads) (keyed : plain.Keyed isPrivate) :
    Regular circumstances ⟨isPrivate, payload, plain.sealingKey isPrivate⟩ where
  payload := used
  privateKey := by
    rintro rfl
    obtain ⟨key, set⟩ := Option.isSome_iff_exists.1 (keyed rfl)
    simpa [sealingKey, set] using mirrors.inUse key set
  publicKey := by
    rintro rfl
    rfl

/-- If the cipher is fair and every call works, an object of known category is replaced. -/
theorem updating_of_succeed (fair : circumstances.Fair) {handle : Handle} {blob : Blob}
    {before : Memory} {ending : Ending Unit}
    (updating : Session.Updating circumstances.suite handle blob before exchanges ending after)
    (used : blob.payload ∈ circumstances.payloads) (keyed : plain.Keyed blob.isPrivate)
    (masterKey : before.masterKey = plain.masterKey)
    (stream : before.nonces.nonce = circumstances.nonce)
    (known : before.categories.get? handle = some (.ofPrivacy blob.isPrivate))
    (succeed : ∀ exchange ∈ exchanges, exchange.Succeeds) :
    ending = .done () ∧ after = { before with nonces := before.nonces.advance } ∧
      ∃ envelope,
        SealedAs circumstances ⟨blob.isPrivate, blob.payload, plain.sealingKey blob.isPrivate⟩
          envelope ∧
        exchanges = [.put (BlobKey.encode (.ofPrivacy blob.isPrivate) handle.number) envelope
          .synced (.done ())] := by
  have category : before.categoryOf handle = .ofPrivacy blob.isPrivate := by
    simp [Memory.categoryOf, known]
  obtain ⟨envelope, written, sealing⟩ := Envelope.encrypt_of_accepts (fair.accepts _ used)
    (select_sealingKey keyed) before.nonces
  rw [← masterKey] at sealing
  cases updating with
  | mismatched differs =>
    rw [category, Category.accepts_iff.2 rfl] at differs
    cases differs
  | unsealed fits failing =>
    rw [sealing] at failing
    cases failing
  | written fits sealed =>
    rw [sealing] at sealed
    cases sealed
    have works : _ = Reply.done () := succeed _ (.head _)
    subst works
    refine ⟨rfl, rfl, envelope, ⟨before.nonces.spent, ?_⟩, by rw [category]⟩
    rw [← stream]
    exact written

/-- There is a key for what is known. -/
theorem Mirrors.keyed_of_known (mirrors : Mirrors circumstances plain memory table)
    {handle : Handle} {isPrivate : Bool}
    (known : plain.known.get? handle = some (.ofPrivacy isPrivate)) : plain.Keyed isPrivate := by
  rintro rfl
  rw [← mirrors.known] at known
  rw [← mirrors.masterKey]
  exact (mirrors.backed _ _ known).2.2 rfl

/-- An object is replaced as in the plain vault. -/
theorem Mirrors.update (fair : circumstances.Fair)
    (mirrors : Mirrors circumstances plain memory table) {handle : Handle} {blob : Blob}
    {ending : Ending Unit} (used : blob.payload ∈ circumstances.payloads)
    (succeed : ∀ exchange ∈ exchanges, exchange.Succeeds)
    (updating : Session.Updating circumstances.suite handle blob memory exchanges ending after) :
    ending = (plain.update handle blob).1 ∧
      Mirrors circumstances (plain.update handle blob).2 after (afterAll exchanges table) := by
  by_cases known : plain.known.get? handle = some (.ofPrivacy blob.isPrivate)
  · have keyed := mirrors.keyed_of_known known
    have inMind := known
    rw [← mirrors.known] at inMind
    obtain ⟨rfl, rfl, envelope, sealing, rfl⟩ := updating_of_succeed fair updating used keyed
      mirrors.masterKey mirrors.stream inMind succeed
    simp only [Plain.update, if_pos known]
    obtain ⟨isObject, stores, _⟩ := mirrors.backed _ _ inMind
    have free := mirrors.storedIn.ready.not_stores_other stores
    have ready := Session.store_known mirrors.storedIn.ready mirrors.backed inMind envelope
    refine ⟨trivial, ⟨?_, ?_, mirrors.stream, mirrors.masterKey, mirrors.known, mirrors.inUse⟩⟩
    · exact mirrors.storedIn.store handle (mirrors.regular used keyed) sealing free ready
    · exact mirrors.backed.mono fun _ _ stored => Table.stores_insert_encode.2 (.inr stored)
  · simp only [Plain.update, if_neg known]
    cases updating with
    | mismatched =>
      refine ⟨?_, mirrors⟩
      rw [Memory.categoryOf, mirrors.known]
    | unsealed fits =>
      rw [← mirrors.known] at known
      exact absurd (Session.known_of_accepts fits) known
    | written fits =>
      rw [← mirrors.known] at known
      exact absurd (Session.known_of_accepts fits) known

/-- If the cipher is fair and every call works, an object for which there is a handle is stored. -/
theorem Mirrors.place (fair : circumstances.Fair)
    (mirrors : Mirrors circumstances plain memory table) {blob : Blob} {handle : Handle}
    {early late : List Exchange} {ending : Ending Unit}
    (used : blob.payload ∈ circumstances.payloads) (keyed : plain.Keyed blob.isPrivate)
    (truthful : AllTruthful (early ++ late) table)
    (succeed : ∀ exchange ∈ early ++ late, exchange.Succeeds)
    (allocating : Metadata.Allocating early (.done handle))
    (updating : Session.Updating circumstances.suite handle blob
      (memory.knowing handle (.ofPrivacy blob.isPrivate)) late ending after) :
    ending = .done () ∧ (plain.insert blob).1 = .done handle ∧
      Mirrors circumstances (plain.insert blob).2 after (afterAll (early ++ late) table) := by
  have ready := mirrors.storedIn.ready
  rcases allocating.of_succeed ready (allTruthful_append.1 truthful).1
    fun exchange member => succeed exchange (List.mem_append_left _ member) with
    ⟨_, failed, _⟩ | ⟨left, given, rfl⟩
  · cases failed
  cases given
  have known : (memory.knowing ⟨plain.next⟩ (.ofPrivacy blob.isPrivate)).categories.get?
      ⟨plain.next⟩ = some (.ofPrivacy blob.isPrivate) := SortedMap.get?_insert_self _ _ _
  obtain ⟨rfl, rfl, envelope, sealing, rfl⟩ := updating_of_succeed fair updating used keyed
    mirrors.masterKey mirrors.stream known
    fun exchange member => succeed exchange (List.mem_append_right _ member)
  have counted := mirrors.storedIn.count left
  have free : ¬ Table.Stores (table.insert MetadataItem.nextHandle.key
      (Decimal.render (plain.next + 1).toNat)) (.ofPrivacy !blob.isPrivate) plain.next :=
    fun stores => mirrors.storedIn.not_stores_next _ (Table.stores_insert_key.1 stores)
  have given : plain.next.toNat < (plain.next + 1).toNat := by
    rw [Metadata.toNat_add_one left]
    exact Nat.lt_succ_self _
  have kept : memory.Backed
      (table.insert MetadataItem.nextHandle.key (Decimal.render (plain.next + 1).toNat)) :=
    mirrors.backed.mono fun _ _ stored => Table.stores_insert_key.2 stored
  simp only [Plain.insert, if_neg keyed.not_keyless, if_neg left, afterAll_append,
    Metadata.afterAll_counting]
  refine ⟨trivial, trivial, ?_, ?_, mirrors.stream, mirrors.masterKey, ?_, mirrors.inUse⟩
  · exact (counted.store ⟨plain.next⟩ (mirrors.regular used keyed) sealing free
      (counted.ready.store ready.positive given free envelope)).of_same rfl rfl rfl
  · refine Memory.Backed.knowing ?_ ⟨plain.next⟩ (Category.ofPrivacy_ne_internal _) ?_ ?_
    · exact kept.mono fun _ _ stored => Table.stores_insert_encode.2 (.inr stored)
    · exact Table.stores_insert_encode.2 (.inl ⟨rfl, rfl⟩)
    · intro isPrivate
      rw [mirrors.masterKey]
      exact keyed (Category.ofPrivacy_inj.1 isPrivate)
  · simp only [Memory.knowing, mirrors.known]

/-- A new object is stored as in the plain vault. -/
theorem Mirrors.insert (fair : circumstances.Fair)
    (mirrors : Mirrors circumstances plain memory table) {blob : Blob} {ending : Ending Handle}
    (used : blob.payload ∈ circumstances.payloads) (truthful : AllTruthful exchanges table)
    (succeed : ∀ exchange ∈ exchanges, exchange.Succeeds)
    (inserting : Session.Inserting circumstances.suite blob memory exchanges ending after) :
    ending = (plain.insert blob).1 ∧
      Mirrors circumstances (plain.insert blob).2 after (afterAll exchanges table) := by
  have ready := mirrors.storedIn.ready
  cases inserting with
  | keyless isPrivate unset =>
    have refused : blob.isPrivate = true ∧ plain.masterKey = none :=
      ⟨isPrivate, by rw [← mirrors.masterKey, unset]⟩
    simp only [Plain.insert, if_pos refused]
    exact ⟨trivial, mirrors⟩
  | unallocated keyed allocating =>
    rw [mirrors.masterKey] at keyed
    rcases allocating.of_succeed ready truthful succeed with ⟨last, failed, same⟩ | ⟨_, given, _⟩
    · simp only [Plain.insert, if_neg (Keyed.not_keyless keyed), if_pos last, failed, same]
      exact ⟨trivial, mirrors⟩
    · cases given
  | stoppedEarly keyed allocating =>
    rcases allocating.of_succeed ready truthful succeed with ⟨_, failed, _⟩ | ⟨_, given, _⟩
    · cases failed
    · cases given
  | unstored keyed allocating updating =>
    rw [mirrors.masterKey] at keyed
    obtain ⟨impossible, _⟩ := mirrors.place fair used keyed truthful succeed allocating updating
    cases impossible
  | stopped keyed allocating updating =>
    rw [mirrors.masterKey] at keyed
    obtain ⟨impossible, _⟩ := mirrors.place fair used keyed truthful succeed allocating updating
    cases impossible
  | stored keyed allocating updating =>
    rw [mirrors.masterKey] at keyed
    obtain ⟨_, same, mirrored⟩ :=
      mirrors.place fair used keyed truthful succeed allocating updating
    exact ⟨same.symm, mirrored⟩

/-- What is known is an object of one of two privacies. -/
theorem Mirrors.privacy_of_known (mirrors : Mirrors circumstances plain memory table)
    {handle : Handle} {category : Category} (known : plain.known.get? handle = some category) :
    ∃ isPrivate, category = .ofPrivacy isPrivate := by
  rw [← mirrors.known] at known
  cases category with
  | internal => exact absurd rfl (mirrors.backed _ _ known).1
  | publicObject => exact ⟨false, rfl⟩
  | privateObject => exact ⟨true, rfl⟩

/-- An object is deleted as in the plain vault. -/
theorem Mirrors.delete (mirrors : Mirrors circumstances plain memory table) {handle : Handle}
    {ending : Ending Unit} (succeed : ∀ exchange ∈ exchanges, exchange.Succeeds)
    (deleting : Session.Deleting handle memory exchanges ending after) :
    ending = .done () ∧
      Mirrors circumstances (plain.delete handle) after (afterAll exchanges table) := by
  cases deleting with
  | undeleted failing => exact absurd (succeed _ (.head _)) failing
  | deleted =>
    refine ⟨rfl, ?_⟩
    have backed := mirrors.backed.without_erase handle (memory.categoryOf handle)
    cases known : plain.known.get? handle with
    | some category =>
      obtain ⟨isPrivate, rfl⟩ := mirrors.privacy_of_known known
      have inMind : memory.categories.get? handle = some (.ofPrivacy isPrivate) := by
        rw [mirrors.known, known]
      have category : memory.categoryOf handle = .ofPrivacy isPrivate := by
        simp [Memory.categoryOf, inMind]
      rw [category] at backed ⊢
      simp only [Plain.delete, known]
      refine ⟨?_, backed, mirrors.stream, mirrors.masterKey, ?_, mirrors.inUse⟩
      · exact (mirrors.storedIn.erase (mirrors.backed _ _ inMind).2.1).of_same rfl rfl rfl
      · simp only [Memory.without, mirrors.known]
    | none =>
      -- A handle that is not known is taken for the number of an internal blob.
      have inMind : memory.categories.get? handle = none := by
        rw [mirrors.known, known]
      have category : memory.categoryOf handle = .internal := by
        simp [Memory.categoryOf, inMind]
      rw [category] at backed ⊢
      simp only [Plain.delete, known]
      refine ⟨?_, backed, mirrors.stream, mirrors.masterKey, ?_, mirrors.inUse⟩
      · exact mirrors.storedIn.eraseInternal handle.number
      · apply SortedMap.ext_get?
        intro other
        simp only [Memory.without, mirrors.known]
        by_cases same : other = handle
        · subst same
          rw [SortedMap.get?_erase_self, known]
        · exact SortedMap.get?_erase_of_ne _ same

/-- All objects are deleted as in the plain vault. -/
theorem Mirrors.deleteAll (mirrors : Mirrors circumstances plain memory table)
    {ending : Ending Unit} (truthful : AllTruthful exchanges table)
    (succeed : ∀ exchange ∈ exchanges, exchange.Succeeds)
    (deleting : Session.DeletingAll memory exchanges ending after) :
    ending = .done () ∧ Mirrors circumstances { plain with objects := ∅, known := ∅ } after
      (afterAll exchanges table) := by
  have orderly := deleting.orderly mirrors.storedIn.ready mirrors.backed truthful
  cases deleting with
  | unscanned failing => exact absurd (succeed _ (.head _)) failing
  | stopped scanned sweeping =>
    obtain ⟨impossible, _⟩ :=
      sweeping.of_succeed table fun exchange member => succeed exchange (.tail _ member)
    cases impossible
  | @swept seen more failures after scanned sweeping =>
    obtain ⟨done, same, keys, handles⟩ :=
      sweeping.of_succeed table fun exchange member => succeed exchange (.tail _ member)
    cases done
    rw [truthful.1.2 scanned] at keys handles
    have canonical := mirrors.storedIn.ready.canonical
    refine ⟨rfl, ?_, orderly.backed rfl, ?_, ?_, ?_, mirrors.inUse⟩
    · apply mirrors.storedIn.deleteAll orderly.ready
      · intro number
        ext value
        refine (keys _ _).trans ⟨And.left, fun stored => ⟨stored, fun blob member => ?_⟩⟩
        exact (((StoredBlob.mem_filter_isObject canonical).1 member).key_ne_internal _).symm
      · rintro isPrivate number ⟨value, stored⟩
        obtain ⟨before, others⟩ := (keys _ _).1 stored
        obtain ⟨blob, member, key, _⟩ := StoredBlob.exists_object canonical
          (Category.ofPrivacy_ne_internal _) ⟨value, before⟩
        exact others blob member key.symm
    · rw [same]
      exact mirrors.stream
    · rw [same]
      exact mirrors.masterKey
    · apply SortedMap.ext_get?
      intro handle
      ext category
      rw [handles]
      constructor
      · rintro ⟨known, others⟩
        obtain ⟨isObject, stores, _⟩ := mirrors.backed handle category known
        obtain ⟨blob, member, _, here⟩ := StoredBlob.exists_object canonical isObject stores
        exact absurd here.symm (others blob member)
      · intro impossible
        cases impossible

/-- The objects that can be read are those of the privacy that were sealed under the key of now. -/
theorem get?_readable {isPrivate : Bool} {handle : Handle} {blob : Blob} :
    (plain.readable isPrivate).get? handle = some blob ↔
      ∃ object, plain.objects.get? handle = some object ∧ object.isPrivate = isPrivate ∧
        (isPrivate = true → plain.masterKey = some object.sealedUnder) ∧
          blob = ⟨isPrivate, object.payload⟩ := by
  rw [readable, SortedMap.get?_filterMap, Option.bind_eq_some_iff]
  constructor
  · rintro ⟨object, found, opened⟩
    split at opened
    · next fits =>
      cases opened
      exact ⟨object, found, fits.1, fits.2, rfl⟩
    · cases opened
  · rintro ⟨object, found, privacy, opens, rfl⟩
    exact ⟨object, found, if_pos ⟨privacy, opens⟩⟩

/-- An object is opened if it is public or was sealed under the master key. -/
theorem Mirrors.decrypt (fair : circumstances.Fair)
    (mirrors : Mirrors circumstances plain memory table) {object : PlainObject}
    {envelope : Bytes} {blob : Blob} (keyed : plain.Keyed object.isPrivate)
    (regular : Regular circumstances object) (sealing : SealedAs circumstances object envelope) :
    Envelope.decrypt circumstances.suite memory.masterKey ⟨object.isPrivate, envelope⟩ = .ok blob ↔
      (object.isPrivate = true → plain.masterKey = some object.sealedUnder) ∧
        blob = ⟨object.isPrivate, object.payload⟩ := by
  obtain ⟨index, written⟩ := sealing
  rw [mirrors.masterKey]
  by_cases opens : object.isPrivate = true → plain.masterKey = some object.sealedUnder
  · have selected :
        SealingKey.select object.isPrivate plain.masterKey = .ok object.sealedUnder := by
      cases privacy : object.isPrivate with
      | true => simp [SealingKey.select, opens privacy]
      | false => simp [SealingKey.select, regular.publicKey privacy]
    rw [Envelope.decrypt_write fair.undoes selected written]
    constructor
    · intro opened
      cases opened
      exact ⟨opens, rfl⟩
    · rintro ⟨_, rfl⟩
      rfl
  · -- A private object that was sealed under another key is refused for its digest.
    obtain ⟨isPrivate, otherKey⟩ := Classical.not_imp.1 opens
    obtain ⟨key, set⟩ := Option.isSome_iff_exists.1 (keyed isPrivate)
    have differs : object.sealedUnder ≠ key := by
      rintro rfl
      exact otherKey set
    obtain ⟨body, encrypted, rfl⟩ := Envelope.write_eq_ok_iff.1 written
    have apart := fair.apart _ (regular.privateKey isPrivate) key (mirrors.inUse key set) differs
      index _ regular.payload body encrypted
    have refused := Envelope.read_write_of_ne apart
    simp only [Envelope.decrypt, isPrivate, set, SealingKey.select, if_true, refused]
    constructor
    · intro impossible
      cases impossible
    · rintro ⟨impossible, _⟩
      exact absurd (Option.some.inj (impossible trivial)).symm differs

/-- A scan finds the objects that are readable. -/
theorem Mirrors.mem_found (fair : circumstances.Fair)
    (mirrors : Mirrors circumstances plain memory table) {isPrivate : Bool}
    (keyed : plain.Keyed isPrivate) {seen : Scan} (complete : seen.visited = table.entries)
    {handle : Handle} {blob : Blob} :
    (handle, blob) ∈ Session.found circumstances.suite memory (.ofPrivacy isPrivate) seen ↔
      (plain.readable isPrivate).get? handle = some blob := by
  have canonical := mirrors.storedIn.ready.canonical
  rw [Session.mem_found, get?_readable, complete, Category.ofPrivacy_beq_privateObject]
  constructor
  · rintro ⟨stored, member, category, rfl, opened⟩
    obtain ⟨key, inTable⟩ := (StoredBlob.mem_among_entries canonical).1 member
    rw [key, category] at inTable
    obtain ⟨object, found, privacy⟩ :=
      mirrors.storedIn.covered stored.handle isPrivate ⟨_, inTable⟩
    subst privacy
    obtain ⟨envelope, here, sealing⟩ := mirrors.storedIn.stored stored.handle object found
    rw [inTable] at here
    cases here
    have regular := mirrors.storedIn.regular stored.handle object found
    obtain ⟨opens, same⟩ := (mirrors.decrypt fair keyed regular sealing).1 opened
    exact ⟨object, found, rfl, opens, same⟩
  · rintro ⟨object, found, rfl, opens, same⟩
    obtain ⟨envelope, inTable, sealing⟩ := mirrors.storedIn.stored handle object found
    have regular := mirrors.storedIn.regular handle object found
    refine ⟨⟨BlobKey.encode (.ofPrivacy object.isPrivate) handle.number,
      .ofPrivacy object.isPrivate, handle, envelope⟩, ?_, rfl, rfl, ?_⟩
    · exact (StoredBlob.mem_among_entries canonical).2 ⟨rfl, inTable⟩
    · exact (mirrors.decrypt fair keyed regular sealing).2 ⟨opens, same⟩

/-- Objects are loaded as in the plain vault. -/
theorem Mirrors.load (fair : circumstances.Fair)
    (mirrors : Mirrors circumstances plain memory table) {isPrivate : Bool}
    {ending : Ending (SortedMap Handle Blob)} (keyed : plain.Keyed isPrivate)
    (truthful : AllTruthful exchanges table) (succeed : ∀ exchange ∈ exchanges, exchange.Succeeds)
    (loading : Session.Loading circumstances.suite (.ofPrivacy isPrivate) memory exchanges ending
      after) :
    ending = .done (plain.load isPrivate).1 ∧
      Mirrors circumstances (plain.load isPrivate).2 after (afterAll exchanges table) := by
  have hasKey : Category.ofPrivacy isPrivate = .privateObject → memory.masterKey.isSome := by
    rw [mirrors.masterKey]
    exact fun privacy => keyed (Category.ofPrivacy_inj.1 privacy)
  have orderly := loading.orderly (Category.ofPrivacy_ne_internal _) hasKey mirrors.storedIn.ready
    mirrors.backed truthful
  cases loading with
  | unscanned failing => exact absurd (succeed _ (.head _)) failing
  | @loaded seen scanned =>
    have members (entry : Handle × Blob) :
        entry ∈ Session.found circumstances.suite memory (.ofPrivacy isPrivate) seen ↔
          entry ∈ (plain.readable isPrivate).entries := by
      rw [← SortedMap.get?_eq_some_iff]
      exact mirrors.mem_found fair keyed (truthful.1.2 scanned)
    refine ⟨?_, ?_, orderly.backed rfl, mirrors.stream, mirrors.masterKey, ?_, mirrors.inUse⟩
    · rw [SortedMap.insertAll_congr ∅ members ?_, SortedMap.insertAll_entries]
      · rfl
      · intro handle blob other member later
        rw [members, ← SortedMap.get?_eq_some_iff] at member later
        rw [member] at later
        exact (Option.some.inj later).symm
    · exact mirrors.storedIn.of_same rfl rfl rfl
    · simp only [Plain.load, mirrors.known]
      refine SortedMap.insertAll_congr _ (fun entry => ?_) ?_
      · simp only [List.mem_map, members]
      · intro handle category other member later
        obtain ⟨_, _, isCategory⟩ := List.mem_map.1 member
        obtain ⟨_, _, isOther⟩ := List.mem_map.1 later
        have same := (Prod.mk.inj isCategory).2
        rw [(Prod.mk.inj isOther).2] at same
        exact same

/-- An internal blob is read as in the plain vault. -/
theorem Mirrors.recall (mirrors : Mirrors circumstances plain memory table) {number : UInt32}
    {ending : Ending (Option Bytes)} (truthful : AllTruthful exchanges table)
    (succeed : ∀ exchange ∈ exchanges, exchange.Succeeds)
    (recalling : Session.Recalling number memory exchanges ending after) :
    ending = .done (plain.internal.get? number) ∧
      Mirrors circumstances plain after (afterAll exchanges table) := by
  cases recalling
  obtain ⟨value, answered⟩ := succeed _ (.head _)
  subst answered
  have found : value = table.get? (BlobKey.encode .internal number) := truthful.1
  rw [found, mirrors.storedIn.internal]
  exact ⟨rfl, mirrors⟩

/-- An internal blob is stored as in the plain vault. -/
theorem Mirrors.note (mirrors : Mirrors circumstances plain memory table) {number : UInt32}
    {value : Bytes} {ending : Ending Unit} (succeed : ∀ exchange ∈ exchanges, exchange.Succeeds)
    (noting : Session.Noting number value memory exchanges ending after) :
    ending = .done () ∧
      Mirrors circumstances { plain with internal := plain.internal.insert number value } after
        (afterAll exchanges table) := by
  cases noting
  have works : _ = Reply.done () := succeed _ (.head _)
  subst works
  refine ⟨rfl, ?_, ?_, mirrors.stream, mirrors.masterKey, mirrors.known, mirrors.inUse⟩
  · exact mirrors.storedIn.setInternal number value
  · exact mirrors.backed.mono fun _ _ stored => Table.stores_insert_encode.2 (.inr stored)

/-- A master key is set as in the plain vault. -/
theorem Mirrors.setMasterKey (mirrors : Mirrors circumstances plain memory table)
    {key : SealingKey} (used : key ∈ circumstances.keys) :
    Mirrors circumstances { plain with masterKey := some key }
      { memory with masterKey := some key } table where
  storedIn := mirrors.storedIn.of_same rfl rfl rfl
  backed := mirrors.backed.unlocked key
  stream := mirrors.stream
  masterKey := rfl
  known := mirrors.known
  inUse := by
    rintro _ ⟨⟩
    exact used

end Plain

end ObjectVault
