import ObjectVault.Proofs.Absence
import ObjectVault.Proofs.Failure

/-!
# What a call changes and what it leaves alone

All keys of a database share one space, and a database may hold anything: keys that no vault writes,
damaged envelopes, a counter that is no number. `Vault.Operation.Writes` has a case for each thing
that a call may write, by the key and what is left under it, and `Performing.throughout_writes` says
that at every moment of a call there is nothing else under any key than what was there before or
what the call may write. What follows for the single calls is put together in `Vault.Frame`, and
`Vault.Operation.Effect` says what a call that succeeds has done (`framed_of_operate`). Nothing is
asked of the database or of what the session has in mind.
-/

namespace ObjectVault

namespace Exchange

/-- What a call leaves under a key that it changes. -/
inductive Leaves (key : Bytes) : Exchange → Option Bytes → Prop where
  | stored {value durability} : Leaves key (.put key value durability (.done ())) (some value)
  | removed {durability} : Leaves key (.delete key durability (.done ())) none

/-- Under each key there is what was there before a call, or what the call leaves. -/
theorem get?_after (exchange : Exchange) (table : Table) (key : Bytes) :
    (exchange.after table).get? key = table.get? key ∨
      exchange.Leaves key ((exchange.after table).get? key) := by
  cases exchange with
  | get other reply => exact .inl rfl
  | scan seen => exact .inl rfl
  | put other value durability reply =>
    by_cases works : reply = .done ()
    · subst works
      by_cases same : key = other
      · subst same
        refine .inr ?_
        rw [after, SortedMap.get?_insert_self]
        exact .stored
      · exact .inl (SortedMap.get?_insert_of_ne _ _ same)
    · rw [after_put_of_ne works]
      exact .inl rfl
  | delete other durability reply =>
    by_cases works : reply = .done ()
    · subst works
      by_cases same : key = other
      · subst same
        refine .inr ?_
        rw [after, SortedMap.get?_erase_self]
        exact .removed
      · exact .inl (SortedMap.get?_erase_of_ne _ same)
    · rw [after_delete_of_ne works]
      exact .inl rfl

/-- Throughout some calls there is under each key what was there before them, or what one of them
leaves. -/
theorem throughout_leaves (exchanges : List Exchange) (table : Table) :
    Throughout (fun moment => ∀ key, moment.get? key = table.get? key ∨
      ∃ exchange ∈ exchanges, exchange.Leaves key (moment.get? key)) exchanges table := by
  induction exchanges generalizing table with
  | nil => exact fun key => .inl rfl
  | cons exchange rest ih =>
    refine ⟨fun key => .inl rfl, (ih (exchange.after table)).mono fun moment traced key => ?_⟩
    rcases traced key with same | ⟨other, member, leaves⟩
    · -- Nothing later has changed it, so only the first call may have.
      rw [same]
      rcases get?_after exchange table key with kept | leaves
      · exact .inl kept
      · exact .inr ⟨exchange, .head _, leaves⟩
    · exact .inr ⟨other, .tail _ member, leaves⟩

end Exchange

open Exchange

/-- Whether the counter of a database can be read and stands at a number. -/
def Table.Counts (table : Table) (number : UInt32) : Prop :=
  (table.get? MetadataItem.nextHandle.key).bind Decimal.parse? = some number

/-- Whether a key is read as that of an object. -/
def BlobKey.NamesObject (key : Bytes) : Prop :=
  ∃ category number, decode? key = some (category, number) ∧ category ≠ .internal

/-- Whether a call only reads from the database. -/
def Vault.Operation.onlyReads : Operation → Bool
  | .loadPublic | .loadPrivate | .getInternal _ | .formatVersion => true
  | .setMasterKey _ | .hasMasterKey => true
  | .insert _ | .update .. | .setInternal .. | .delete _ | .deleteAll => false

/-- What a call may write to a database, by the key and what is left under it. -/
inductive Vault.Operation.Writes (memory : Memory) (table : Table) :
    Operation → Bytes → Option Bytes → Prop where
  | counted {blob number} (counts : table.Counts number) (left : number ≠ Metadata.lastNumber) :
      Writes memory table (.insert blob) MetadataItem.nextHandle.key
        (some (Decimal.render (number + 1).toNat))
  /-- An insertion stores the object under the number at which the counter stood. -/
  | placed {blob number envelope} (counts : table.Counts number) :
      Writes memory table (.insert blob) (BlobKey.encode (.ofPrivacy blob.isPrivate) number)
        (some envelope)
  | replaced {handle blob envelope} :
      Writes memory table (.update handle blob)
        (BlobKey.encode (.ofPrivacy blob.isPrivate) handle.number) (some envelope)
  | noted {number value} :
      Writes memory table (.setInternal number value) (BlobKey.encode .internal number)
        (some value)
  /-- A blob is removed, in the category that is known for it. -/
  | deleted {handle} :
      Writes memory table (.delete handle)
        (BlobKey.encode (memory.categoryOf handle) handle.number) none
  | swept {key} (names : BlobKey.NamesObject key) : Writes memory table .deleteAll key none

/-- What a call that succeeds leaves in a database, by its answer. -/
inductive Vault.Operation.Effect (memory : Memory) (table : Table) :
    Operation → Answer → Table → Prop where
  | inserted {blob handle envelope} (counts : table.Counts handle.number) :
      Effect memory table (.insert blob) (.handle handle)
        ((table.insert MetadataItem.nextHandle.key
          (Decimal.render (handle.number + 1).toNat)).insert
            (BlobKey.encode (.ofPrivacy blob.isPrivate) handle.number) envelope)
  | updated {handle blob envelope} :
      Effect memory table (.update handle blob) .nothing
        (table.insert (BlobKey.encode (.ofPrivacy blob.isPrivate) handle.number) envelope)
  | noted {number value} :
      Effect memory table (.setInternal number value) .nothing
        (table.insert (BlobKey.encode .internal number) value)
  | deleted {handle} :
      Effect memory table (.delete handle) .nothing
        (SortedMap.erase table (BlobKey.encode (memory.categoryOf handle) handle.number))
  | swept {after : Table} (gone : ∀ key, BlobKey.NamesObject key → after.get? key = none)
      (kept : ∀ key, ¬ BlobKey.NamesObject key → after.get? key = table.get? key) :
      Effect memory table .deleteAll .nothing after
  | read {operation answer} (onlyReads : operation.onlyReads = true) :
      Effect memory table operation answer table

section Writes

variable {suite : Suite} {table : Table} {before after : Memory} {exchanges : List Exchange}
  {key : Bytes} {found : Option Bytes}

/-- If the counter is read as a number, it stands at it. -/
theorem Metadata.counts_of_reading {reply : Reply (Option Bytes)} {number : UInt32}
    (truthful : (Exchange.get MetadataItem.nextHandle.key reply).Truthful table)
    (read : reading .nextHandle reply = .done number) : table.Counts number := by
  obtain ⟨raw, rfl, parsed⟩ := eq_done_of_reading read
  have stands : some raw = table.get? MetadataItem.nextHandle.key := truthful
  rw [Table.Counts, ← stands]
  exact parsed

namespace Metadata.Allocating

/-- While a handle is given out, nothing is written but the next number. -/
theorem writes {ending : Ending Handle} (truthful : AllTruthful exchanges table)
    (allocating : Allocating exchanges ending) (blob : Blob) {exchange : Exchange}
    (member : exchange ∈ exchanges) (leaves : exchange.Leaves key found) :
    Vault.Operation.Writes before table (.insert blob) key found := by
  cases allocating with
  | unread => cases List.mem_singleton.1 member ▸ leaves
  | stopped => cases List.mem_singleton.1 member ▸ leaves
  | exhausted => cases List.mem_singleton.1 member ▸ leaves
  | counted read left =>
    simp only [List.mem_cons, List.not_mem_nil, or_false] at member
    rcases member with rfl | rfl
    · cases leaves
    · cases leaves
      exact .counted (counts_of_reading truthful.1 read) left

/-- A handle that is given out is the number at which the counter stood, and the counter has moved
past it. -/
theorem effect {handle : Handle} (truthful : AllTruthful exchanges table)
    (allocating : Allocating exchanges (.done handle)) :
    table.Counts handle.number ∧ afterAll exchanges table =
      table.insert MetadataItem.nextHandle.key (Decimal.render (handle.number + 1).toNat) := by
  generalize outcome : Ending.done handle = ending at allocating
  cases allocating with
  | unread => cases outcome
  | stopped => cases outcome
  | exhausted => cases outcome
  | counted read left =>
    obtain ⟨_, written, rfl⟩ := Ending.map_eq_done.1 outcome.symm
    rw [Reply.ending_eq_done.1 written]
    exact ⟨counts_of_reading truthful.1 read, rfl⟩

end Metadata.Allocating

/-- The objects that a scan shows have keys that name objects. -/
theorem StoredBlob.namesObject_of_mem {entries : List (Bytes × Bytes)} {blob : StoredBlob}
    (member : blob ∈ (among entries).filter isObject) : BlobKey.NamesObject blob.key := by
  obtain ⟨shown, isObject⟩ := List.mem_filter.1 member
  exact ⟨_, _, (mem_among.1 shown).2, by simpa [StoredBlob.isObject] using isObject⟩

/-- An object that is stored is shown by a scan. -/
theorem StoredBlob.exists_of_namesObject {value : Bytes} (stored : table.get? key = some value)
    (names : BlobKey.NamesObject key) :
    ∃ blob ∈ (among table.entries).filter isObject, blob.key = key := by
  obtain ⟨category, number, decoded, isObject⟩ := names
  refine ⟨⟨key, category, ⟨number⟩, value⟩, List.mem_filter.2 ⟨mem_among.2 ⟨?_, decoded⟩, ?_⟩, rfl⟩
  · exact SortedMap.get?_eq_some_iff.1 stored
  · simpa [StoredBlob.isObject] using isObject

namespace Session

/-- Nothing is written but the counter and the object, under the number of the counter. -/
theorem Inserting.writes {blob : Blob} {ending : Ending Handle}
    (truthful : AllTruthful exchanges table)
    (inserting : Inserting suite blob before exchanges ending after) {exchange : Exchange}
    (member : exchange ∈ exchanges) (leaves : exchange.Leaves key found) :
    Vault.Operation.Writes before table (.insert blob) key found := by
  -- The three ways in which a handle is given out differ only in how storing the object ends.
  have placing {early more : List Exchange} {handle : Handle} {memory later : Memory}
      {ending : Ending Unit} (truthful : AllTruthful (early ++ more) table)
      (allocating : Metadata.Allocating early (.done handle))
      (updating : Updating suite handle blob memory more ending later)
      (member : exchange ∈ early ++ more) :
      Vault.Operation.Writes before table (.insert blob) key found := by
    have truthful := (allTruthful_append.1 truthful).1
    rcases List.mem_append.1 member with early | late
    · exact allocating.writes truthful blob early leaves
    · obtain ⟨envelope, reply, rfl⟩ := updating.target exchange late
      cases leaves
      exact .placed (allocating.effect truthful).1
  cases inserting with
  | keyless => cases member
  | unallocated keyed allocating => exact allocating.writes truthful blob member leaves
  | stoppedEarly keyed allocating => exact allocating.writes truthful blob member leaves
  | unstored keyed allocating updating => exact placing truthful allocating updating member
  | stopped keyed allocating updating => exact placing truthful allocating updating member
  | stored keyed allocating updating => exact placing truthful allocating updating member

/-- An object that is inserted is stored under its handle. -/
theorem Inserting.effect {blob : Blob} {handle : Handle} (truthful : AllTruthful exchanges table)
    (inserting : Inserting suite blob before exchanges (.done handle) after) :
    Vault.Operation.Effect before table (.insert blob) (.handle handle)
      (afterAll exchanges table) := by
  cases inserting with
  | stored keyed allocating updating =>
    obtain ⟨counts, counted⟩ := allocating.effect (allTruthful_append.1 truthful).1
    rw [afterAll_append, counted]
    obtain ⟨_, ⟨_, failing⟩ | ⟨_, _, envelope, rfl⟩⟩ := updating.effect
    · exact absurd rfl failing
    · exact .inserted counts

/-- Nothing is done in a sweep but to remove the blobs. -/
theorem Sweeping.removal {blobs : List StoredBlob} {ending : Ending Nat}
    (sweeping : Sweeping blobs before exchanges ending after) :
    ∀ exchange ∈ exchanges, ∃ blob ∈ blobs, ∃ reply, exchange = .delete blob.key .synced reply := by
  induction sweeping with
  | finished => simp
  | @deleted blob rest _ _ _ _ _ ih =>
    refine List.forall_mem_cons.2 ⟨⟨blob, .head _, _, rfl⟩, fun exchange member => ?_⟩
    obtain ⟨other, later, reply, same⟩ := ih exchange member
    exact ⟨other, .tail _ later, reply, same⟩
  | @kept blob rest _ _ _ _ _ _ ih =>
    refine List.forall_mem_cons.2 ⟨⟨blob, .head _, _, rfl⟩, fun exchange member => ?_⟩
    obtain ⟨other, later, reply, same⟩ := ih exchange member
    exact ⟨other, .tail _ later, reply, same⟩
  | @stopped blob => exact List.forall_mem_cons.2 ⟨⟨blob, .head _, _, rfl⟩, by simp⟩

/-- Nothing is removed along with all objects but keys that name an object. -/
theorem DeletingAll.writes {ending : Ending Unit}
    (deleting : DeletingAll before exchanges ending after) {exchange : Exchange}
    (member : exchange ∈ exchanges) (leaves : exchange.Leaves key found) :
    Vault.Operation.Writes before table .deleteAll key found := by
  have sweep {seen : Scan} {more : List Exchange} {ending : Ending Nat}
      (sweeping : Sweeping ((StoredBlob.among seen.visited).filter StoredBlob.isObject) before more
        ending after) (member : exchange ∈ Exchange.scan seen :: more) :
      Vault.Operation.Writes before table .deleteAll key found := by
    rcases List.mem_cons.1 member with rfl | later
    · cases leaves
    · obtain ⟨blob, shown, reply, rfl⟩ := sweeping.removal exchange later
      cases leaves
      exact .swept (StoredBlob.namesObject_of_mem shown)
  cases deleting with
  | unscanned => cases List.mem_singleton.1 member ▸ leaves
  | stopped scanned sweeping => exact sweep sweeping member
  | swept scanned sweeping => exact sweep sweeping member

/-- If all objects are deleted, no key is left that names one, and no other one is gone. -/
theorem DeletingAll.effect (truthful : AllTruthful exchanges table)
    (deleting : DeletingAll before exchanges (.done ()) after) :
    Vault.Operation.Effect before table .deleteAll .nothing (afterAll exchanges table) := by
  generalize outcome : Ending.done () = ending at deleting
  cases deleting with
  | unscanned failing => exact absurd (Reply.ending_eq_done.1 outcome.symm) failing
  | stopped => cases outcome
  | @swept seen swept failures _ scanned sweeping =>
    split at outcome
    · next none =>
      subst none
      obtain ⟨removed, some, tables, _, count⟩ := sweeping.removes
      have all := some.eq_of_length (by simpa using count 0 rfl)
      have visited : seen.visited = table.entries := truthful.1.2 scanned
      change Vault.Operation.Effect before table .deleteAll .nothing (afterAll swept table)
      rw [tables, all, visited]
      refine .swept (fun key names => ?_) (fun key other => ?_)
      · refine Option.eq_none_iff_forall_ne_some.2 fun value left => ?_
        obtain ⟨spared, stored⟩ := SortedMap.get?_eraseAll_eq_some_iff.1 left
        obtain ⟨blob, member, rfl⟩ := StoredBlob.exists_of_namesObject stored names
        exact spared (List.mem_map_of_mem member)
      · refine Option.ext fun value => ?_
        rw [SortedMap.get?_eraseAll_eq_some_iff]
        refine and_iff_right fun among => ?_
        obtain ⟨blob, member, rfl⟩ := List.mem_map.1 among
        exact other (StoredBlob.namesObject_of_mem member)
    · cases outcome

/-- Nothing is written while objects are loaded. -/
theorem Loading.not_leaves {category : Category} {ending : Ending (SortedMap Handle Blob)}
    (loading : Loading suite category before exchanges ending after) {exchange : Exchange}
    (member : exchange ∈ exchanges) : ¬ exchange.Leaves key found := by
  intro leaves
  cases loading with
  | unscanned => cases List.mem_singleton.1 member ▸ leaves
  | loaded => cases List.mem_singleton.1 member ▸ leaves

end Session

namespace Vault.Performing

variable {operation : Operation}

/-- Whatever a call leaves under a key is something that it may write. -/
theorem writes {ending : Ending Answer} (truthful : AllTruthful exchanges table)
    (performing : Performing suite before operation exchanges ending after) {exchange : Exchange}
    (member : exchange ∈ exchanges) (leaves : exchange.Leaves key found) :
    operation.Writes before table key found := by
  cases performing with
  | insert inserting => exact inserting.writes truthful member leaves
  | update updating =>
    obtain ⟨envelope, reply, rfl⟩ := updating.target exchange member
    cases leaves
    exact .replaced
  | delete deleting =>
    cases deleting with
    | deleted =>
      cases List.mem_singleton.1 member
      cases leaves
      exact .deleted
    | undeleted failing =>
      cases List.mem_singleton.1 member
      cases leaves
      exact absurd rfl failing
  | deleteAll deleting => exact deleting.writes member leaves
  | loadPublic loading => exact absurd leaves (loading.not_leaves member)
  | loadPrivate loading =>
    cases loading with
    | keyless => cases member
    | keyed set loading => exact absurd leaves (loading.not_leaves member)
  | getInternal recalling =>
    cases recalling with
    | asked => cases List.mem_singleton.1 member ▸ leaves
  | setInternal noting =>
    cases noting with
    | written =>
      cases List.mem_singleton.1 member
      cases leaves
      exact .noted
  | setMasterKey => cases member
  | unfitKey => cases member
  | hasMasterKey => cases member
  | formatVersion => cases List.mem_singleton.1 member ▸ leaves

/-- At every moment of a call there is under each key what was there before, or what the call may
write. -/
theorem throughout_writes {ending : Ending Answer} (truthful : AllTruthful exchanges table)
    (performing : Performing suite before operation exchanges ending after) :
    Throughout (fun moment => ∀ key, moment.get? key = table.get? key ∨
      operation.Writes before table key (moment.get? key)) exchanges table := by
  refine (throughout_leaves exchanges table).mono fun moment traced key => ?_
  rcases traced key with same | ⟨exchange, member, leaves⟩
  · exact .inl same
  · exact .inr (performing.writes truthful member leaves)

/-- A call that succeeds leaves what it is called for. -/
theorem effect {answer : Answer} (truthful : AllTruthful exchanges table)
    (performing : Performing suite before operation exchanges (.done answer) after) :
    operation.Effect before table answer (afterAll exchanges table) := by
  generalize outcome : Ending.done answer = ending at performing
  cases performing with
  | insert inserting =>
    obtain ⟨handle, rfl, rfl⟩ := Ending.map_eq_done.1 outcome.symm
    exact inserting.effect truthful
  | update updating =>
    obtain ⟨_, rfl, rfl⟩ := Ending.map_eq_done.1 outcome.symm
    obtain ⟨_, ⟨_, failing⟩ | ⟨_, _, envelope, rfl⟩⟩ := updating.effect
    · exact absurd rfl failing
    · exact .updated
  | delete deleting =>
    obtain ⟨_, done, rfl⟩ := Ending.map_eq_done.1 outcome.symm
    cases deleting with
    | deleted => exact .deleted
    | undeleted failing => exact absurd (Reply.ending_eq_done.1 done) failing
  | deleteAll deleting =>
    obtain ⟨_, rfl, rfl⟩ := Ending.map_eq_done.1 outcome.symm
    exact deleting.effect truthful
  | loadPublic loading => cases loading <;> exact .read rfl
  | loadPrivate loading =>
    cases loading with
    | keyless => exact .read rfl
    | keyed set loading => cases loading <;> exact .read rfl
  | getInternal recalling => cases recalling; exact .read rfl
  | setInternal noting =>
    obtain ⟨_, done, rfl⟩ := Ending.map_eq_done.1 outcome.symm
    cases noting with
    | written =>
      rw [Reply.ending_eq_done.1 done]
      exact .noted
  | setMasterKey => exact .read rfl
  | unfitKey => exact .read rfl
  | hasMasterKey => exact .read rfl
  | formatVersion => exact .read rfl

end Vault.Performing

end Writes

/-- What a call leaves alone up to some moment of it. -/
structure Vault.Frame (memory : Memory) (operation : Operation) (before moment : Table) :
    Prop where
  version : moment.get? MetadataItem.formatVersion.key = before.get? MetadataItem.formatVersion.key
  /-- A key that is neither the counter nor a blob key stays as it is. -/
  foreign : ∀ key, key ≠ MetadataItem.nextHandle.key → BlobKey.decode? key = none →
    moment.get? key = before.get? key
  /-- The counter is changed only by an insertion, and only to the next number. -/
  counter : moment.get? MetadataItem.nextHandle.key ≠ before.get? MetadataItem.nextHandle.key →
    (∃ blob, operation = .insert blob) ∧ ∃ number, before.Counts number ∧
      number ≠ Metadata.lastNumber ∧ moment.get? MetadataItem.nextHandle.key =
        some (Decimal.render (number + 1).toNat)
  /-- But for the counter, an insertion changes only the key of the object that it stores. -/
  insert : ∀ blob, operation = .insert blob → ∀ key, key ≠ MetadataItem.nextHandle.key →
    moment.get? key ≠ before.get? key → (moment.get? key).isSome ∧ ∃ number,
      before.Counts number ∧ key = BlobKey.encode (.ofPrivacy blob.isPrivate) number
  /-- An update changes only the key of the object that it replaces. -/
  update : ∀ handle blob, operation = .update handle blob → ∀ key,
    moment.get? key ≠ before.get? key → (moment.get? key).isSome ∧
      key = BlobKey.encode (.ofPrivacy blob.isPrivate) handle.number
  /-- Only the key of an internal blob is changed when it is stored. -/
  setInternal : ∀ number value, operation = .setInternal number value → ∀ key,
    moment.get? key ≠ before.get? key → moment.get? key = some value ∧
      key = BlobKey.encode .internal number
  /-- A deletion removes only the key under the category that is known for the handle. -/
  delete : ∀ handle, operation = .delete handle → ∀ key, moment.get? key ≠ before.get? key →
    moment.get? key = none ∧ key = BlobKey.encode (memory.categoryOf handle) handle.number
  /-- Along with all objects only keys are removed that are read as those of objects. -/
  deleteAll : operation = .deleteAll → ∀ key, moment.get? key ≠ before.get? key →
    moment.get? key = none ∧ BlobKey.NamesObject key
  /-- Any other call changes nothing. -/
  onlyReads : operation.onlyReads = true → moment = before

namespace Vault.Operation.Writes

variable {memory : Memory} {table : Table} {operation : Operation} {key : Bytes}
  {found : Option Bytes}

/-- Nothing is written but the counter and under keys that are read as those of blobs. -/
theorem decoded (writes : operation.Writes memory table key found)
    (other : key ≠ MetadataItem.nextHandle.key) : BlobKey.decode? key ≠ none := by
  cases writes with
  | counted => exact absurd rfl other
  | swept names =>
    obtain ⟨category, number, decoded, _⟩ := names
    simp [decoded]
  | _ => simp

/-- The counter is written only by an insertion. -/
theorem of_counter (writes : operation.Writes memory table key found)
    (isCounter : key = MetadataItem.nextHandle.key) :
    (∃ blob, operation = .insert blob) ∧ ∃ number, table.Counts number ∧
      number ≠ Metadata.lastNumber ∧ found = some (Decimal.render (number + 1).toNat) := by
  cases writes with
  | counted counts left => exact ⟨⟨_, rfl⟩, _, counts, left, rfl⟩
  | swept names =>
    obtain ⟨category, number, decoded, _⟩ := names
    rw [isCounter, BlobKey.decode?_key] at decoded
    cases decoded
  | _ => exact absurd isCounter (BlobKey.encode_ne_key _ _ _)

end Vault.Operation.Writes

/-- What a call leaves alone follows from what it may write. -/
theorem Vault.frame_of_writes {memory : Memory} {operation : Operation} {before moment : Table}
    (traced : ∀ key, moment.get? key = before.get? key ∨
      operation.Writes memory before key (moment.get? key)) :
    Frame memory operation before moment := by
  have written {key : Bytes} (changed : moment.get? key ≠ before.get? key) :
      operation.Writes memory before key (moment.get? key) :=
    (traced key).resolve_left changed
  have foreign {key : Bytes} (other : key ≠ MetadataItem.nextHandle.key)
      (undecoded : BlobKey.decode? key = none) : moment.get? key = before.get? key :=
    (traced key).resolve_right fun writes => writes.decoded other undecoded
  constructor
  case version => exact foreign (by simp [BlobKey.key_inj]) (BlobKey.decode?_key _)
  case foreign => exact fun key => foreign
  case counter => exact fun changed => (written changed).of_counter rfl
  case insert =>
    rintro blob rfl key other changed
    have writes := written changed
    generalize moment.get? key = found at writes ⊢
    cases writes with
    | counted => exact absurd rfl other
    | placed counts => exact ⟨rfl, _, counts, rfl⟩
  case update =>
    rintro handle blob rfl key changed
    have writes := written changed
    generalize moment.get? key = found at writes ⊢
    cases writes with
    | replaced => exact ⟨rfl, rfl⟩
  case setInternal =>
    rintro number value rfl key changed
    have writes := written changed
    generalize moment.get? key = found at writes ⊢
    cases writes with
    | noted => exact ⟨rfl, rfl⟩
  case delete =>
    rintro handle rfl key changed
    have writes := written changed
    generalize moment.get? key = found at writes ⊢
    cases writes with
    | deleted => exact ⟨rfl, rfl⟩
  case deleteAll =>
    rintro rfl key changed
    have writes := written changed
    generalize moment.get? key = found at writes ⊢
    cases writes with
    | swept names => exact ⟨rfl, names⟩
  case onlyReads =>
    intro reads
    refine SortedMap.ext_get? fun key => (traced key).resolve_right fun writes => ?_
    generalize moment.get? key = found at writes
    cases writes <;> cases reads

namespace Lifetime

/-- An open vault has the memory of its session, whether or not its lock is whole. -/
theorem standing_opened (vault : Vault (World Storage)) :
    (Situation.opened vault).standing = .working vault.session.memory ∨
      (Situation.opened vault).standing = .broken vault.session.memory := by
  rw [Situation.standing]
  split
  · exact .inr rfl
  · exact .inl rfl

/-- A call of an open vault writes what it may write, and succeeds only if it has done so. -/
theorem Going.operated {setting : Setting} {before after : Standing} {memory : Memory}
    {operation : Vault.Operation} {exchanges : List Exchange} {outcome : Outcome} {table : Table}
    (isOpen : before = .working memory ∨ before = .broken memory)
    (truthful : AllTruthful exchanges table)
    (going : Going setting before (.operate operation) exchanges outcome after) :
    Throughout (fun moment => ∀ key, moment.get? key = table.get? key ∨
        operation.Writes memory table key (moment.get? key)) exchanges table ∧
      ∀ answer, outcome = .answer (.done answer) →
        operation.Effect memory table answer (afterAll exchanges table) := by
  cases going with
  | idle => rcases isOpen with impossible | impossible <;> cases impossible
  | refused => exact ⟨fun key => .inl rfl, nofun⟩
  | performed performing =>
    obtain rfl : _ = memory := by
      rcases isOpen with same | impossible
      · exact Standing.working.inj same
      · cases impossible
    refine ⟨performing.throughout_writes truthful, ?_⟩
    rintro answer answered
    cases answered
    exact performing.effect truthful

/-- Whatever is in the database, whatever an open vault has in mind and whatever fails, a call of it
leaves alone what it is not about, at every moment. If it succeeds, it leaves what it is called for.
-/
theorem framed_of_operate (setting : Setting) (vault : Vault (World Storage))
    (operation : Vault.Operation) :
    (∀ moment ∈ (take setting (.operate operation) (.opened vault)).contents,
      Vault.Frame vault.session.memory operation (Situation.opened vault).table moment) ∧
    ∀ answer, (take setting (.operate operation) (.opened vault)).outcome =
        .answer (.done answer) →
      operation.Effect vault.session.memory (Situation.opened vault).table answer
        (take setting (.operate operation) (.opened vault)).after.table := by
  obtain ⟨exchanges, yields, history, going⟩ :=
    take_going setting (.operate operation) (.opened vault)
  have truthful : AllTruthful exchanges (Situation.opened vault).table := yields.truthful
  obtain ⟨writes, effect⟩ := going.operated (standing_opened vault) truthful
  constructor
  · exact Report.forall_contents history (writes.mono fun moment => Vault.frame_of_writes)
  · rw [table_of_making history]
    exact effect

end Lifetime

end ObjectVault
