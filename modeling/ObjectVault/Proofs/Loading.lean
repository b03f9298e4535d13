import ObjectVault.Proofs.Sight

/-!
# What is loaded from a database

A load visits all keys of a database in byte order and answers objects in the order of their
numbers. A number may be spelled in several ways, and anything at all may be stored under a key, so
that what is answered for a handle is what the last of its keys holds that can be read
(`Table.get?_objects_iff_last`), and a key has a say in no other handle
(`Table.get?_objects_of_ne`). What cannot be read is passed over with a warning.
`Vault.loadObjects_exact` says all that a load does.
-/

namespace ObjectVault

/-- A key with an unknown tag is worth no warning. -/
theorem BlobKey.level_of_mem_remarks {key : Bytes} {line : LogLine} (member : line ∈ remarks key) :
    line.level = .debug := by
  rw [remarks] at member
  split at member
  · rw [List.mem_singleton.1 member]
  · cases member

/-- The blobs are found in key order if the entries are. -/
theorem StoredBlob.among_ascending {entries : List (Bytes × Bytes)}
    (ascending : entries.Pairwise fun left right => compare left.1 right.1 = .lt) :
    (among entries).Pairwise fun left right => compare left.key right.key = .lt := by
  rw [among, List.pairwise_filterMap]
  refine ascending.imp fun {left right} before => ?_
  intro first isFirst second isSecond
  obtain ⟨_, _, rfl⟩ := Option.map_eq_some_iff.1 isFirst
  obtain ⟨_, _, rfl⟩ := Option.map_eq_some_iff.1 isSecond
  exact before

/-- The object that a blob of a category holds, with its handle, if it is opened. -/
def StoredBlob.object? (suite : Suite) (master : Option SealingKey) (category : Category)
    (blob : StoredBlob) : Option (Handle × Blob) :=
  match Envelope.decrypt suite master ⟨category == .privateObject, blob.value⟩ with
  | .ok object => some (blob.handle, object)
  | .error _ => none

/-- An object is read from a blob if it is what the envelope is decrypted to. -/
theorem StoredBlob.object?_eq_some_iff {suite : Suite} {master : Option SealingKey}
    {isPrivate : Bool} {blob : StoredBlob} {handle : Handle} {object : Blob} :
    blob.object? suite master (.ofPrivacy isPrivate) = some (handle, object) ↔
      blob.handle = handle ∧
        Envelope.decrypt suite master ⟨isPrivate, blob.value⟩ = .ok object := by
  rw [object?, Category.ofPrivacy_beq_privateObject]
  cases Envelope.decrypt suite master ⟨isPrivate, blob.value⟩ <;> simp

namespace Table

/-- Whether a key names an object and has a value that is opened. -/
structure Reads (table : Table) (suite : Suite) (master : Option SealingKey) (isPrivate : Bool)
    (key : Bytes) (handle : Handle) (object : Blob) : Prop where
  named : BlobKey.decode? key = some (.ofPrivacy isPrivate, handle.number)
  opened : ∃ value, table.get? key = some value ∧
    Envelope.decrypt suite master ⟨isPrivate, value⟩ = .ok object

/-- Whether something is stored as an object and is not opened. -/
structure Withholds (table : Table) (suite : Suite) (master : Option SealingKey)
    (isPrivate : Bool) (stored : StoredBlob) (error : VaultError) : Prop where
  category : stored.category = .ofPrivacy isPrivate
  named : BlobKey.decode? stored.key = some (stored.category, stored.handle.number)
  isStored : table.get? stored.key = some stored.value
  unopened : Envelope.decrypt suite master ⟨isPrivate, stored.value⟩ = .error error

/-- The blobs of a category that are in a database, in key order. -/
def blobsOf (table : Table) (category : Category) : List StoredBlob :=
  (StoredBlob.among table.entries).filter fun blob => blob.category = category

/-- The objects of a category that are in a database and cannot be read, in key order. -/
def damage (table : Table) (suite : Suite) (master : Option SealingKey) (category : Category) :
    List (StoredBlob × VaultError) :=
  StoredBlob.damaged suite master category (table.blobsOf category)

variable {table : Table} {suite : Suite} {master : Option SealingKey} {isPrivate : Bool}
  {handle : Handle} {object : Blob}

/-- The blobs of a category that a scan shows are those whose keys name them. -/
theorem mem_blobsOf_iff {category : Category} {blob : StoredBlob} :
    blob ∈ table.blobsOf category ↔
      blob.category = category ∧
        BlobKey.decode? blob.key = some (blob.category, blob.handle.number) ∧
        table.get? blob.key = some blob.value := by
  rw [blobsOf, List.mem_filter, StoredBlob.mem_among, ← SortedMap.get?_eq_some_iff,
    decide_eq_true_eq]
  constructor
  · rintro ⟨⟨stored, named⟩, isOf⟩
    exact ⟨isOf, named, stored⟩
  · rintro ⟨isOf, named, stored⟩
    exact ⟨⟨stored, named⟩, isOf⟩

/-- The blobs of a category are met in key order. -/
theorem blobsOf_ascending (table : Table) (category : Category) :
    (table.blobsOf category).Pairwise fun left right => compare left.key right.key = .lt :=
  (StoredBlob.among_ascending table.ascending).filter _

/-- A key is readable if a blob under it is opened. -/
theorem reads_iff {key : Bytes} :
    table.Reads suite master isPrivate key handle object ↔
      ∃ blob ∈ table.blobsOf (.ofPrivacy isPrivate), blob.key = key ∧
        blob.object? suite master (.ofPrivacy isPrivate) = some (handle, object) := by
  simp only [mem_blobsOf_iff, StoredBlob.object?_eq_some_iff]
  constructor
  · rintro ⟨named, value, stored, opened⟩
    exact ⟨⟨key, .ofPrivacy isPrivate, handle, value⟩, ⟨rfl, named, stored⟩, rfl, rfl, opened⟩
  · rintro ⟨blob, ⟨category, named, stored⟩, rfl, rfl, opened⟩
    rw [category] at named
    exact ⟨named, blob.value, stored, opened⟩

theorem objects_eq (table : Table) (suite : Suite) (master : Option SealingKey)
    (category : Category) :
    table.objects suite master category =
      SortedMap.insertAll ∅ ((table.blobsOf category).filterMap
        (StoredBlob.object? suite master category)) := rfl

/-- A handle is answered if some key of it can be read. -/
theorem mem_keys_objects_iff :
    handle ∈ (table.objects suite master (.ofPrivacy isPrivate)).keys ↔
      ∃ key object, table.Reads suite master isPrivate key handle object := by
  have nothing : handle ∉ (∅ : SortedMap Handle Blob).keys := nofun
  rw [objects_eq, SortedMap.mem_keys_insertAll, or_iff_left nothing, List.mem_map]
  constructor
  · rintro ⟨⟨_, object⟩, member, rfl⟩
    obtain ⟨blob, member, isRead⟩ := List.mem_filterMap.1 member
    exact ⟨blob.key, object, reads_iff.2 ⟨blob, member, rfl, isRead⟩⟩
  · rintro ⟨key, object, reads⟩
    obtain ⟨blob, member, _, isRead⟩ := reads_iff.1 reads
    exact ⟨(handle, object), List.mem_filterMap.2 ⟨blob, member, isRead⟩, rfl⟩

/-- What is answered for a handle is what the last key of it holds that can be read. -/
theorem get?_objects_iff_last :
    (table.objects suite master (.ofPrivacy isPrivate)).get? handle = some object ↔
      ∃ key, table.Reads suite master isPrivate key handle object ∧
        ∀ later other, table.Reads suite master isPrivate later handle other →
          compare key later ≠ .lt := by
  have asymmetric {first second : StoredBlob} (before : compare first.key second.key = .lt) :
      compare second.key first.key ≠ .lt := by
    rw [Std.OrientedCmp.gt_of_lt before]
    nofun
  rw [objects_eq, SortedMap.get?_insertAll_filterMap asymmetric _ (table.blobsOf_ascending _),
    or_iff_left fun found => nomatch found.2]
  constructor
  · rintro ⟨blob, member, isRead, last⟩
    refine ⟨blob.key, reads_iff.2 ⟨blob, member, rfl, isRead⟩, ?_⟩
    intro key other alsoReads before
    obtain ⟨later, member, rfl, isRead⟩ := reads_iff.1 alsoReads
    exact last later member before other isRead
  · rintro ⟨key, reads, last⟩
    obtain ⟨blob, member, rfl, isRead⟩ := reads_iff.1 reads
    refine ⟨blob, member, isRead, ?_⟩
    intro later member before other isRead
    exact last later.key other (reads_iff.2 ⟨later, member, rfl, isRead⟩) before

/-- A key has a say in the handle that it names, and in no other one. -/
theorem get?_objects_of_ne {key : Bytes}
    (unnamed : BlobKey.decode? key ≠ some (.ofPrivacy isPrivate, handle.number)) (value : Bytes) :
    (objects (table.insert key value) suite master (.ofPrivacy isPrivate)).get? handle =
      (table.objects suite master (.ofPrivacy isPrivate)).get? handle := by
  have same (other : Bytes) (object : Blob) :
      Reads (table.insert key value) suite master isPrivate other handle object ↔
        table.Reads suite master isPrivate other handle object := by
    by_cases named : BlobKey.decode? other = some (.ofPrivacy isPrivate, handle.number)
    · have differs : other ≠ key := by
        rintro rfl
        exact unnamed named
      constructor
      · rintro ⟨_, found, stored, opened⟩
        rw [SortedMap.get?_insert_of_ne _ _ differs] at stored
        exact ⟨named, found, stored, opened⟩
      · rintro ⟨_, found, stored, opened⟩
        rw [← SortedMap.get?_insert_of_ne table value differs] at stored
        exact ⟨named, found, stored, opened⟩
    · exact ⟨fun reads => absurd reads.named named, fun reads => absurd reads.named named⟩
  ext object
  simp only [get?_objects_iff_last, same]

/-- What cannot be read is what is stored as an object and is not opened. -/
theorem mem_damage_iff {stored : StoredBlob} {error : VaultError} :
    (stored, error) ∈ table.damage suite master (.ofPrivacy isPrivate) ↔
      table.Withholds suite master isPrivate stored error := by
  simp only [damage, StoredBlob.damaged, List.mem_filterMap, mem_blobsOf_iff,
    Category.ofPrivacy_beq_privateObject]
  constructor
  · rintro ⟨blob, ⟨category, named, isStored⟩, unopened⟩
    split at unopened
    · cases unopened
    · next fails =>
      cases unopened
      exact ⟨category, named, isStored, fails⟩
  · rintro ⟨category, named, isStored, unopened⟩
    exact ⟨stored, ⟨category, named, isStored⟩, by rw [unopened]⟩

/-- What cannot be read is met in key order, and each key once. -/
theorem damage_ascending (table : Table) (suite : Suite) (master : Option SealingKey)
    (category : Category) :
    (table.damage suite master category).Pairwise fun left right =>
      compare left.1.key right.1.key = .lt := by
  rw [damage, StoredBlob.damaged, List.pairwise_filterMap]
  refine (table.blobsOf_ascending category).imp fun {left right} before => ?_
  intro first isFirst second isSecond
  split at isFirst <;> cases isFirst
  split at isSecond <;> cases isSecond
  exact before

end Table

/-- What is known after some objects of a category are loaded: the category of each of them, and of
any other what was known before. -/
theorem SortedMap.get?_insertAll_category (categories : SortedMap Handle Category)
    (found : List (Handle × Blob)) (category : Category) (handle : Handle) :
    (categories.insertAll (found.map fun object => (object.1, category))).get? handle =
      if handle ∈ (insertAll ∅ found).keys then some category else categories.get? handle := by
  have listed : handle ∈ (insertAll ∅ found).keys ↔ ∃ object ∈ found, object.1 = handle := by
    have nothing : handle ∉ (∅ : SortedMap Handle Blob).keys := nofun
    rw [mem_keys_insertAll, or_iff_left nothing, List.mem_map]
  have members (other : Category) :
      (handle, other) ∈ found.map (fun object => (object.1, category)) ↔
        other = category ∧ ∃ object ∈ found, object.1 = handle := by
    simp only [List.mem_map, Prod.mk.injEq]
    constructor
    · rintro ⟨object, member, isOf, rfl⟩
      exact ⟨rfl, object, member, isOf⟩
    · rintro ⟨rfl, object, member, isOf⟩
      exact ⟨object, member, isOf, rfl⟩
  split
  · next loaded =>
    exact get?_insertAll_of_mem ((members category).2 ⟨rfl, listed.1 loaded⟩)
      fun other member => ((members other).1 member).1
  · next unloaded =>
    exact get?_insertAll_of_notMem fun other member =>
      unloaded (listed.2 ((members other).1 member).2)

namespace Session

variable {ω : Type}

/-- How a session goes on once the objects of a category are loaded. -/
def afterLoading (services : Services ω) (category : Category) (table : Table)
    (machine : Machine (Session ω)) : Machine (Session ω) where
  state := { machine.state with
    world := (services.backend.scan machine.state.world).2
    categories := machine.state.categories.insertAll
      (((table.blobsOf category).filterMap
        (StoredBlob.object? services.suite machine.state.masterKey category)).map
          fun object => (object.1, category)) }
  journal := { machine.journal with
    lines := machine.journal.lines ++
      (table.entries.flatMap (fun entry => BlobKey.remarks entry.1) ++
        (table.damage services.suite machine.state.masterKey category).map
          fun (stored, error) => warning stored error) }

/-- If the scan comes to its end, the objects are loaded, whatever is stored. -/
theorem load_run (services : Services ω) (category : Category) {table : Table}
    (machine : Machine (Session ω))
    (keyed : category = .privateObject → machine.state.masterKey.isSome)
    (scans : (services.backend.scan machine.state.world).1 = ⟨table.entries, .done ()⟩) :
    (load services category).run machine =
      (.done (table.objects services.suite machine.state.masterKey category),
        afterLoading services category table machine) := by
  have opens (journal : Journal) := openEach_run services category (table.blobsOf category) ∅
    ⟨{ machine.state with world := (services.backend.scan machine.state.world).2 }, journal⟩ keyed
  rw [load, Action.run_bind, storedBlobs_run, scans]
  refine (opens _).trans ?_
  rw [afterLoading, ← List.append_assoc]
  rfl

/-- With a master key, the private objects are loaded as any others. -/
theorem loadPrivate_run {services : Services ω} {machine : Machine (Session ω)}
    (isSet : machine.state.masterKey.isSome) :
    (loadPrivate services).run machine = (load services .privateObject).run machine := by
  obtain ⟨key, set⟩ := Option.isSome_iff_exists.1 isSet
  simp [loadPrivate, Action.run_bind, set]

end Session

namespace Vault

variable {ω : Type}

/-- Loads the objects of a privacy. -/
def loadObjects (services : Services ω) :
    (isPrivate : Bool) → Action (Vault ω) (SortedMap Handle Blob)
  | false => loadPublic services
  | true => loadPrivate services

/-- What becomes of a vault whose objects of a privacy are loaded, and what is answered. -/
structure Loaded (suite : Suite) (isPrivate : Bool) (table : Table) (world : ω)
    (before : Machine (Vault ω)) (objects : SortedMap Handle Blob) (after : Machine (Vault ω)) :
    Prop where
  ascending : objects.keys.Pairwise fun first second => first.number < second.number
  /-- The handles are those that some key names whose value is opened. -/
  listed (handle : Handle) : handle ∈ objects.keys ↔
    ∃ key object, table.Reads suite before.state.session.masterKey isPrivate key handle object
  /-- Each of them comes with what the last of these keys holds. -/
  last (handle : Handle) (object : Blob) : objects.get? handle = some object ↔
    ∃ key, table.Reads suite before.state.session.masterKey isPrivate key handle object ∧
      ∀ later other,
        table.Reads suite before.state.session.masterKey isPrivate later handle other →
          compare key later ≠ .lt
  /-- The category of just these handles is known. -/
  known (handle : Handle) : after.state.session.categories.get? handle =
    if handle ∈ objects.keys then some (.ofPrivacy isPrivate)
      else before.state.session.categories.get? handle
  /-- There is one warning for everything that cannot be read, in key order, and no other one. -/
  warned : ∃ (remarks : List LogLine) (damage : List (StoredBlob × VaultError)),
    (∀ line ∈ remarks, line.level = .debug) ∧
    (damage.Pairwise fun left right => compare left.1.key right.1.key = .lt) ∧
    (∀ stored error, (stored, error) ∈ damage ↔
      table.Withholds suite before.state.session.masterKey isPrivate stored error) ∧
    after.journal = { before.journal with
      lines := before.journal.lines ++ (remarks ++
        damage.map fun (stored, error) => Session.warning stored error) }
  same : after.state = { before.state with
    session := { before.state.session with
      world, categories := after.state.session.categories } }

/-- If the scan comes to its end, the objects are loaded, whatever is stored. -/
theorem loadObjects_run (services : Services ω) (isPrivate : Bool) {table : Table}
    {machine : Machine (Vault ω)} (whole : machine.state.poisoned = false)
    (keyed : isPrivate = true → machine.state.session.masterKey.isSome)
    (scans : (services.backend.scan machine.state.session.world).1 =
      ⟨table.entries, .done ()⟩) :
    let later := Session.afterLoading services (.ofPrivacy isPrivate) table
      ⟨machine.state.session, machine.journal⟩
    (loadObjects services isPrivate).run machine =
      (.done (table.objects services.suite machine.state.session.masterKey
          (.ofPrivacy isPrivate)),
        ⟨{ session := later.state }, later.journal⟩) := by
  intro later
  cases isPrivate with
  | false =>
    have run := Session.load_run services .publicObject
      ⟨machine.state.session, machine.journal⟩ (by simp) scans
    rw [loadObjects, loadPublic, locked_run _ _ whole, run]
    rfl
  | true =>
    have isSet := keyed rfl
    have run := Session.load_run services .privateObject
      ⟨machine.state.session, machine.journal⟩ (fun _ => isSet) scans
    rw [loadObjects, loadPrivate, locked_run _ _ whole, Session.loadPrivate_run isSet, run]
    rfl

namespace Loading

/-- A suite that masks nothing and has one tag for all messages. -/
def suite : Suite where
  encrypt? _ _ payload := some payload
  decrypt? _ _ body := some body
  tag _ _ := List.replicate 64 0
  length_tag _ _ := List.length_replicate

/-- The envelope of a payload of a public object. -/
def envelope (payload : Bytes) : Bytes :=
  match Envelope.write suite .obfuscation (.counting 0) payload with
  | .ok envelope => envelope
  | .error _ => []

/-- A database in which the number 7 is spelled in three ways, the last of which cannot be read, and
in which there is an envelope that breaks off and a key with an unknown tag. -/
def table : Table := .ofList [
  (Bytes.ofText "PublicBlob&007", envelope [1]),
  (Bytes.ofText "PublicBlob&07", envelope [2]),
  (Bytes.ofText "PublicBlob&12", envelope [3]),
  (Bytes.ofText "PublicBlob&7", [1, 2, 3]),
  (Bytes.ofText "PublicBlob&8", (envelope [4]).dropLast),
  (Bytes.ofText "Stray&7", envelope [5])]

/-- A vault that takes the object with the number 7 for a private one. -/
def machine (table : Table) : Machine (Vault Table) :=
  ⟨{ session := ⟨table, ⟨.counting, 0⟩, none, .ofList [(⟨7⟩, .privateObject)]⟩ }, {}⟩

end Loading

/-- A load reads exactly what can be read. Whatever is in a database and whatever a vault has in
mind, if the scan comes to its end the load succeeds, what cannot be read is only warned of, and
what is under a key has a say in the handle that it names alone. -/
theorem loadObjects_exact (services : Services ω) (isPrivate : Bool) (table : Table)
    (machine : Machine (Vault ω)) (whole : machine.state.poisoned = false)
    (keyed : isPrivate = true → machine.state.session.masterKey.isSome)
    (scans : (services.backend.scan machine.state.session.world).1 =
      ⟨table.entries, .done ()⟩) :
    let objects (table : Table) :=
      table.objects services.suite machine.state.session.masterKey (.ofPrivacy isPrivate)
    let result := (loadObjects services isPrivate).run machine
    result.1 = .done (objects table) ∧
      Loaded services.suite isPrivate table
        (services.backend.scan machine.state.session.world).2 machine (objects table) result.2 ∧
      ∀ key value, ∀ handle : Handle,
        BlobKey.decode? key ≠ some (.ofPrivacy isPrivate, handle.number) →
          (objects (table.insert key value)).get? handle = (objects table).get? handle := by
  intro objects result
  have run : result = _ := loadObjects_run services isPrivate whole keyed scans
  rw [run]
  refine ⟨rfl, ?_, fun key value handle unnamed => Table.get?_objects_of_ne unnamed value⟩
  constructor
  case ascending =>
    refine (objects table).keys_ascending.imp fun {first second} before => ?_
    exact compareOfLessAndEq_eq_lt.1 before
  case listed => exact fun handle => Table.mem_keys_objects_iff
  case last => exact fun handle object => Table.get?_objects_iff_last
  case known => exact fun handle => SortedMap.get?_insertAll_category _ _ _ handle
  case warned =>
    refine ⟨_, _, ?_, Table.damage_ascending table _ _ _, fun _ _ => Table.mem_damage_iff, rfl⟩
    intro line member
    obtain ⟨entry, _, isRemark⟩ := List.mem_flatMap.1 member
    exact BlobKey.level_of_mem_remarks isRemark
  case same =>
    obtain ⟨⟨session, poisoned⟩, journal⟩ := machine
    cases whole
    rfl

/-- Objects whose numbers are spelled in several ways are loaded although some of what is stored
cannot be read. -/
theorem loadObjects_exact_damaged :
    let machine := Loading.machine Loading.table
    let objects : SortedMap Handle Blob := .ofList [(⟨7⟩, ⟨false, [2]⟩), (⟨12⟩, ⟨false, [3]⟩)]
    let result := (loadObjects ⟨Loading.suite, Table.backend⟩ false).run machine
    result.1 = .done objects ∧
      Loaded Loading.suite false Loading.table Loading.table machine objects result.2 := by
  intro machine objects result
  have isSeen : Loading.table.objects Loading.suite none .publicObject = objects := by
    decide +kernel
  have loads (table : Table) := loadObjects_exact ⟨Loading.suite, Table.backend⟩ false table
    (Loading.machine table) rfl nofun rfl
  rw [← isSeen]
  exact ⟨(loads _).1, (loads _).2.1⟩

end Vault

end ObjectVault
