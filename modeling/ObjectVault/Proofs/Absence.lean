import ObjectVault.Proofs.Handles

/-!
# What is gone does not come back

An object comes to be in a database in two ways only: under the number at which the counter stands,
or in place of an object of the same category (`Going.placed`). So nothing comes to be any more
under a handle that has been given out and has no object, and an object never changes its
visibility, whatever fails and however often the vault is opened again (`Lasting`).
-/

namespace ObjectVault

open Exchange

namespace Table

variable {table : Table} {category : Category} {number : UInt32}

/-- Whether a handle is less than the counter. -/
def GivenOut (table : Table) (handle : Handle) : Prop :=
  ∃ next : UInt32, handle.number < next ∧
    table.get? MetadataItem.nextHandle.key = some (Decimal.render next.toNat)

/-- A handle that was given out is below the level of the table. -/
theorem GivenOut.lt_level {handle : Handle} (given : table.GivenOut handle) :
    handle.number.toNat < table.level := by
  obtain ⟨next, below, counter⟩ := given
  simp only [level, counter, Option.bind_some, Decimal.parse?_render, Option.elim_some]
  exact UInt32.lt_iff_toNat_lt.1 below

/-- Whether there is a public or a private object under a handle. -/
def hasObject (table : Table) (isPrivate : Bool) (handle : Handle) : Bool :=
  table.contains (BlobKey.encode (.ofPrivacy isPrivate) handle.number)

theorem hasObject_eq_false {isPrivate : Bool} {handle : Handle} :
    table.hasObject isPrivate handle = false ↔
      ¬ table.Stores (.ofPrivacy isPrivate) handle.number := by
  rw [← contains_encode, Bool.not_eq_true, hasObject]

end Table

/-- Whether objects are stored in place of objects only, or under one number. -/
def Exchange.Placed (level : Nat) (exchanges : List Exchange) (table : Table) : Prop :=
  ∀ entry ∈ entries exchanges table, ∀ category number value durability reply,
    category ≠ .internal →
      entry.exchange = .put (BlobKey.encode category number) value durability reply →
        entry.before.Stores category number ∨ number.toNat = level

namespace Exchange

variable {table : Table} {exchanges : List Exchange} {category : Category} {number : UInt32}
  {level : Nat}

/-- What is stored after an exchange was stored before it or is stored by it. -/
theorem stores_of_stores_after {exchange : Exchange}
    (stored : Table.Stores (exchange.after table) category number) :
    table.Stores category number ∨ ∃ value durability reply,
      exchange = .put (BlobKey.encode category number) value durability reply := by
  obtain ⟨found, stored⟩ := stored
  cases exchange with
  | get key reply => exact .inl ⟨found, stored⟩
  | scan seen => exact .inl ⟨found, stored⟩
  | put key value durability reply =>
    cases reply with
    | done _ =>
      rcases SortedMap.of_get?_insert stored with ⟨rfl, _⟩ | ⟨_, stored⟩
      · exact .inr ⟨value, durability, _, rfl⟩
      · exact .inl ⟨found, stored⟩
    | failed error => exact .inl ⟨found, stored⟩
    | panicked => exact .inl ⟨found, stored⟩
  | delete key durability reply =>
    cases reply with
    | done _ => exact .inl ⟨found, (SortedMap.of_get?_erase stored).2⟩
    | failed error => exact .inl ⟨found, stored⟩
    | panicked => exact .inl ⟨found, stored⟩

/-- Exchanges that store no object. -/
theorem Placed.of_quiet
    (quiet : ∀ exchange ∈ exchanges, ∀ category number value durability reply,
      category ≠ .internal →
        exchange ≠ .put (BlobKey.encode category number) value durability reply) :
    Placed level exchanges table := by
  intro entry member category number value durability reply isObject written
  exact absurd written
    (quiet _ (exchange_mem_of_mem_entries member) _ _ _ _ _ isObject)

/-- An object that is not there, and is not under the one number, is never there. -/
theorem Placed.throughout (placed : Placed level exchanges table) (isObject : category ≠ .internal)
    (differs : number.toNat ≠ level) (absent : ¬ table.Stores category number) :
    Throughout (fun other => ¬ other.Stores category number) exchanges table := by
  induction exchanges generalizing table with
  | nil => exact absent
  | cons exchange rest ih =>
    refine ⟨absent, ih (fun entry member => placed entry (.tail _ member)) ?_⟩
    intro stored
    rcases stores_of_stores_after stored with already | ⟨value, durability, reply, written⟩
    · exact absent already
    · rcases placed _ (.head _) _ _ _ _ _ isObject written with already | here
      · exact absent already
      · exact differs here

end Exchange

namespace Session

variable {suite : Suite} {table : Table} {next : UInt32} {before after : Memory}
  {exchanges : List Exchange}

/-- An object is replaced where it is. -/
theorem Updating.placed {level : Nat} {handle : Handle} {blob : Blob} {ending : Ending Unit}
    (backed : before.Backed table)
    (updating : Updating suite handle blob before exchanges ending after) :
    Placed level exchanges table := by
  cases updating with
  | mismatched => exact .of_quiet (by simp)
  | unsealed => exact .of_quiet (by simp)
  | written fits =>
    intro entry member category number value durability reply isObject written
    rw [entries, entries, List.mem_singleton] at member
    subst member
    obtain ⟨rfl, rfl⟩ := BlobKey.encode_inj.1 (Exchange.put.inj written).1
    rw [Category.accepts_iff.1 fits]
    exact .inl (backed _ _ (known_of_accepts fits)).2.1

/-- A new object is stored under the number at which the counter stands. -/
theorem Placing.placed {blob : Blob} {ending : Ending Handle}
    (placing : Placing table next blob before exchanges ending after) :
    Placed next.toNat exchanges table := by
  have counting {more : List Exchange}
      (target : ∀ exchange ∈ more, ∃ envelope reply, exchange =
        .put (BlobKey.encode (.ofPrivacy blob.isPrivate) next) envelope .synced reply) :
      Placed next.toNat (Metadata.counting next ++ more) table := by
    intro entry member category number value durability reply isObject written
    rcases List.mem_append.1 (exchange_mem_of_mem_entries member) with early | late
    · rw [written] at early
      simp [Metadata.counting, BlobKey.encode_ne_key] at early
    · obtain ⟨envelope, answer, same⟩ := target _ late
      rw [written] at same
      obtain ⟨_, rfl⟩ := BlobKey.encode_inj.1 (Exchange.put.inj same).1
      exact .inr rfl
  cases placing with
  | refused quiet => exact .of_quiet fun _ member _ _ _ _ _ _ => quiet _ member _ _ _ _ _
  | spent left target => exact counting target
  | stored left keyed =>
    refine counting fun exchange member => ?_
    rw [List.mem_singleton.1 member]
    exact ⟨_, _, rfl⟩

/-- A sweep makes no calls but deletions. -/
theorem Sweeping.deletes {blobs : List StoredBlob} {ending : Ending Nat}
    (sweeping : Sweeping blobs before exchanges ending after) :
    ∀ exchange ∈ exchanges, ∃ key durability reply, exchange = .delete key durability reply := by
  induction sweeping with
  | finished => simp
  | deleted _ ih => exact List.forall_mem_cons.2 ⟨⟨_, _, _, rfl⟩, ih⟩
  | kept _ ih => exact List.forall_mem_cons.2 ⟨⟨_, _, _, rfl⟩, ih⟩
  | stopped => exact List.forall_mem_cons.2 ⟨⟨_, _, _, rfl⟩, by simp⟩

/-- Nothing is stored while all objects are deleted. -/
theorem DeletingAll.placed {level : Nat} {ending : Ending Unit}
    (deleting : DeletingAll before exchanges ending after) : Placed level exchanges table := by
  have swept {blobs : List StoredBlob} {seen : Scan} {more : List Exchange} {ending : Ending Nat}
      (sweeping : Sweeping blobs before more ending after) :
      Placed level (.scan seen :: more) table := by
    refine .of_quiet (List.forall_mem_cons.2 ⟨by simp, fun exchange member => ?_⟩)
    obtain ⟨key, durability, reply, rfl⟩ := sweeping.deletes _ member
    simp
  cases deleting with
  | unscanned => exact .of_quiet (by simp)
  | stopped scanned sweeping => exact swept sweeping
  | swept scanned sweeping => exact swept sweeping

/-- To load objects stores none. -/
theorem Loading.placed {level : Nat} {category : Category}
    {ending : Ending (SortedMap Handle Blob)}
    (loading : Loading suite category before exchanges ending after) :
    Placed level exchanges table := by
  cases loading <;> exact .of_quiet (by simp)

/-- An object that is loaded is stored. -/
theorem Loading.stored (isPrivate : Bool) {objects : SortedMap Handle Blob} {handle : Handle}
    {object : Blob} (ready : table.Ready next) (truthful : AllTruthful exchanges table)
    (loading : Loading suite (.ofPrivacy isPrivate) before exchanges (.done objects) after)
    (loaded : objects.get? handle = some object) :
    table.Stores (.ofPrivacy object.isPrivate) handle.number := by
  generalize outcome : Ending.done objects = ending at loading
  cases loading with
  | unscanned failing =>
    obtain ⟨_, scanned, _⟩ := Ending.map_eq_done.1 outcome.symm
    exact absurd (Reply.ending_eq_done.1 scanned) failing
  | loaded scanned =>
    cases outcome
    rcases SortedMap.of_get?_insertAll loaded with member | absent
    · obtain ⟨blob, shown, category, rfl, opened⟩ := mem_found.1 member
      rw [truthful.1.2 scanned] at shown
      obtain ⟨key, stored⟩ := (StoredBlob.mem_among_entries ready.canonical).1 shown
      obtain ⟨_, _, _, visibility⟩ := Envelope.decrypt_eq_ok_iff.1 opened
      have same : object.isPrivate = isPrivate := by
        rw [visibility]
        cases isPrivate <;> rfl
      rw [key, category] at stored
      rw [same]
      exact ⟨_, stored⟩
    · cases absent

end Session

/-- Metadata is no object. -/
theorem Metadata.Initializing.placed {level : Nat} {exchanges : List Exchange} {table : Table}
    {ending : Ending Bool} (initializing : Initializing exchanges ending) :
    Placed level exchanges table := by
  refine .of_quiet ?_
  cases initializing with
  | settingUp setting => cases setting <;> simp [(BlobKey.encode_ne_key _ _ _).symm]
  | _ => simp

/-- A call of a vault stores objects where there are objects, or where the counter stands. -/
theorem Vault.Performing.placed {suite : Suite} {table : Table} {next : UInt32}
    {before after : Memory} {operation : Operation} {exchanges : List Exchange}
    {ending : Ending Answer} (ready : table.Ready next) (backed : before.Backed table)
    (truthful : AllTruthful exchanges table)
    (performing : Performing suite before operation exchanges ending after) :
    Placed next.toNat exchanges table := by
  cases performing with
  | insert inserting => exact (inserting.placing ready backed truthful).placed
  | update updating => exact updating.placed backed
  | delete deleting => cases deleting <;> exact .of_quiet (by simp)
  | deleteAll deleting => exact deleting.placed
  | loadPublic loading => exact loading.placed
  | loadPrivate loading =>
    cases loading with
    | keyless => exact .of_quiet (by simp)
    | keyed set loading => exact loading.placed
  | getInternal recalling => cases recalling; exact .of_quiet (by simp)
  | setInternal noting =>
    cases noting
    refine .of_quiet ?_
    simp only [List.mem_singleton, forall_eq, ne_eq, Exchange.put.injEq, BlobKey.encode_inj]
    rintro category _ _ _ _ isObject ⟨⟨rfl, _⟩, _⟩
    exact isObject rfl
  | setMasterKey => exact .of_quiet (by simp)
  | unfitKey => exact .of_quiet (by simp)
  | hasMasterKey => exact .of_quiet (by simp)
  | formatVersion => exact .of_quiet (by simp)

/-- An object that a call answers is stored. -/
theorem Vault.Performing.stored {suite : Suite} {table : Table} {next : UInt32}
    {before after : Memory} {operation : Operation} {exchanges : List Exchange}
    {objects : SortedMap Handle Blob} {handle : Handle} {object : Blob} (ready : table.Ready next)
    (truthful : AllTruthful exchanges table)
    (performing : Performing suite before operation exchanges (.done (.objects objects)) after)
    (loaded : objects.get? handle = some object) :
    table.Stores (.ofPrivacy object.isPrivate) handle.number := by
  generalize outcome : Ending.done (Answer.objects objects) = ending at performing
  have answered := outcome.symm
  cases performing with
  | loadPublic loading =>
    obtain ⟨_, rfl, same⟩ := Ending.map_eq_done.1 answered
    cases same
    exact loading.stored false ready truthful loaded
  | loadPrivate loading =>
    obtain ⟨_, rfl, same⟩ := Ending.map_eq_done.1 answered
    cases same
    cases loading with
    | keyed set loading => exact loading.stored true ready truthful loaded
  | _ => simp at answered

namespace Lifetime

namespace Going

variable {setting : Setting} {before after : Standing} {step : Step} {exchanges : List Exchange}
  {outcome : Outcome} {table : Table}

/-- Every step stores objects where there are objects, or where the counter stands. -/
theorem placed (coherent : before.Coherent table) (truthful : AllTruthful exchanges table)
    (going : Going setting before step exchanges outcome after) :
    Placed table.level exchanges table := by
  cases going with
  | idle => exact .of_quiet (by simp)
  | refused => exact .of_quiet (by simp)
  | performed performing =>
    obtain ⟨⟨next, ready⟩, backed⟩ := coherent
    rw [ready.level]
    exact performing.placed ready backed truthful
  | unopened opening =>
    cases opening with
    | refused => exact .of_quiet (by simp)
    | initializing direct initializing => exact initializing.placed
  | @opened _ _ _ exchanges opened opening =>
    generalize Ending.done opened = ending at opening
    cases opening with
    | refused => exact .of_quiet (by simp)
    | initializing direct initializing => exact initializing.placed

/-- An object that a step answers is stored. -/
theorem stored {objects : SortedMap Handle Blob} {handle : Handle} {object : Blob}
    (coherent : before.Coherent table) (truthful : AllTruthful exchanges table)
    (going : Going setting before step exchanges (.answer (.done (.objects objects))) after)
    (loaded : objects.get? handle = some object) :
    table.Stores (.ofPrivacy object.isPrivate) handle.number := by
  generalize answered : Ending.done (Vault.Answer.objects objects) = ending at going
  cases going with
  | refused => cases answered
  | performed performing =>
    subst answered
    obtain ⟨⟨next, ready⟩, _⟩ := coherent
    exact performing.stored ready truthful loaded

end Going

/-- What was in the database at any time during a step, the last of it at the end. -/
def Report.contents (report : Report) : List Table :=
  report.entries.map Entry.before ++ [report.after.table]

/-- What holds throughout the exchanges of a step holds at every moment of it. -/
theorem Report.forall_contents {report : Report} {exchanges : List Exchange}
    {property : Table → Prop}
    (history : report.after.history = report.before.history.making exchanges)
    (throughout : Throughout property exchanges report.before.table) :
    ∀ moment ∈ report.contents, property moment := by
  intro moment inReport
  rw [Report.contents, entries_of_making history, List.mem_append] at inReport
  rcases inReport with early | last
  · obtain ⟨entry, member, rfl⟩ := List.mem_map.1 early
    exact throughout.of_mem_entries member
  · rw [List.mem_singleton.1 last, table_of_making history]
    exact throughout.after

/-- Whether an object is missing for good: its number has been given out, and it is not there. -/
structure Situation.Lacking (category : Category) (number : UInt32) (situation : Situation) :
    Prop where
  coherent : situation.Coherent
  given : number.toNat < situation.table.level
  absent : ¬ situation.table.Stores category number

variable {setting : Setting} {category : Category} {number : UInt32}

/-- What is missing stays missing in a step. -/
theorem Situation.Lacking.throughout {situation : Situation} {step : Step} {outcome : Outcome}
    {exchanges : List Exchange} {after : Standing} (isObject : category ≠ .internal)
    (lacking : situation.Lacking category number)
    (truthful : AllTruthful exchanges situation.table)
    (going : Going setting situation.standing step exchanges outcome after) :
    Throughout (fun other => ¬ other.Stores category number) exchanges situation.table :=
  (going.placed lacking.coherent.standing truthful).throughout isObject
    (Nat.ne_of_lt lacking.given) lacking.absent

/-- An object that was given out and is not there does not come back in any step. -/
theorem lacking_take (isObject : category ≠ .internal) (step : Step) (situation : Situation)
    (lacking : situation.Lacking category number) :
    (take setting step situation).after.Lacking category number := by
  obtain ⟨exchanges, yields, history, going⟩ := take_going setting step situation
  obtain ⟨settled, _⟩ := going.coherent lacking.coherent.standing yields.truthful
  have table := table_of_making history
  refine ⟨coherent_take step situation lacking.coherent, ?_, ?_⟩
  · rw [table]
    exact Nat.lt_of_lt_of_le lacking.given settled.before.2
  · rw [table]
    exact (lacking.throughout isObject yields.truthful going).after

/-- What is missing is missing at every moment of every later step. -/
theorem Situation.Lacking.of_mem_contents {situation : Situation} (isObject : category ≠ .internal)
    (lacking : situation.Lacking category number) {steps : List Step} {report : Report}
    (member : report ∈ reports setting steps situation) :
    ∀ table ∈ report.contents, ¬ table.Stores category number := by
  obtain ⟨lacking, taken⟩ := reports_induction (lacking_take isObject) steps lacking member
  obtain ⟨exchanges, yields, history, going⟩ := take_going setting report.step report.before
  rw [← taken] at history going
  exact Report.forall_contents history (lacking.throughout isObject yields.truthful going)

/-- An object that is missing is not loaded in any later step. -/
theorem Situation.Lacking.of_loaded {situation : Situation} {isPrivate : Bool} {handle : Handle}
    (lacking : situation.Lacking (.ofPrivacy isPrivate) handle.number) {steps : List Step}
    {report : Report} (member : report ∈ reports setting steps situation)
    {objects : SortedMap Handle Blob} {object : Blob}
    (answered : report.outcome = .answer (.done (.objects objects)))
    (loaded : objects.get? handle = some object) : object.isPrivate = !isPrivate := by
  obtain ⟨lacking, taken⟩ :=
    reports_induction (lacking_take (Category.ofPrivacy_ne_internal isPrivate)) steps lacking member
  obtain ⟨exchanges, yields, _, going⟩ := take_going setting report.step report.before
  rw [← taken, answered] at going
  have stored := going.stored lacking.coherent.standing yields.truthful loaded
  rw [Bool.eq_not]
  intro same
  rw [same] at stored
  exact lacking.absent stored

/-- Whether it lasts that a handle is without an object, or that its object is public or private,
from a moment on at which a database has a table. -/
structure Lasting (handle : Handle) (table : Table) (later : List Report) : Prop where
  /-- If there is no object, there is none at any later moment. -/
  absent : (∀ isPrivate, table.hasObject isPrivate handle = false) →
    ∀ report ∈ later, ∀ moment ∈ report.contents, ∀ isPrivate,
      moment.hasObject isPrivate handle = false
  /-- If there is no object, none is loaded later. -/
  unloaded : (∀ isPrivate, table.hasObject isPrivate handle = false) →
    ∀ report ∈ later, ∀ objects, report.outcome = .answer (.done (.objects objects)) →
      objects.get? handle = none
  /-- If there is an object, there is none of other visibility at any later moment. -/
  visibility : ∀ isPrivate, table.hasObject isPrivate handle = true →
    ∀ report ∈ later, ∀ moment ∈ report.contents, moment.hasObject (!isPrivate) handle = false
  /-- If there is an object, none of other visibility is loaded later. -/
  loaded : ∀ isPrivate, table.hasObject isPrivate handle = true →
    ∀ report ∈ later, ∀ objects, report.outcome = .answer (.done (.objects objects)) →
      ∀ object, objects.get? handle = some object → object.isPrivate = isPrivate

/-- In every lifetime, whatever fails, a handle that was given out and is without an object stays
without one, and an object stays public or private. -/
theorem lasting_of_givenOut (setting : Setting) (early late : List Step) (disk : Disk)
    (nonces : NonceSupply) (handle : Handle)
    (given : (final setting early (.start disk nonces)).table.GivenOut handle) :
    Lasting handle (final setting early (.start disk nonces)).table
      (reports setting late (final setting early (.start disk nonces))) := by
  have coherent := coherent_final setting early disk nonces
  generalize final setting early (.start disk nonces) = earlier at given coherent ⊢
  have isObject := Category.ofPrivacy_ne_internal
  have lacking {isPrivate : Bool} (absent : earlier.table.hasObject isPrivate handle = false) :
      earlier.Lacking (.ofPrivacy isPrivate) handle.number :=
    ⟨coherent, given.lt_level, Table.hasObject_eq_false.1 absent⟩
  have other {isPrivate : Bool} (stored : earlier.table.hasObject isPrivate handle = true) :
      earlier.table.hasObject (!isPrivate) handle = false := by
    rw [Table.hasObject, Table.contains_encode] at stored
    rw [Table.hasObject_eq_false]
    rcases coherent.standing.settled with blank | ⟨next, ready⟩
    · exact blank.not_stores
    · exact ready.not_stores_other stored
  constructor
  · intro absent report member moment inReport isPrivate
    exact Table.hasObject_eq_false.2
      ((lacking (absent isPrivate)).of_mem_contents (isObject _) member moment inReport)
  · intro absent report member objects answered
    cases loaded : objects.get? handle with
    | none => rfl
    | some object =>
      have differs := (lacking (absent object.isPrivate)).of_loaded member answered loaded
      simp at differs
  · intro isPrivate stored report member moment inReport
    exact Table.hasObject_eq_false.2
      ((lacking (other stored)).of_mem_contents (isObject _) member moment inReport)
  · intro isPrivate stored report member objects answered object loaded
    rw [(lacking (other stored)).of_loaded member answered loaded, Bool.not_not]

/-- What a program does that stores an object and deletes it. -/
def removal : List Step := [
  .reopen .silent none, .operate (.insert ⟨false, [1, 2, 3]⟩), .operate (.delete ⟨1⟩)]

/-- An object that was deleted does not come back by its handle, or when the vault is opened
again. -/
theorem lasting_removal :
    let removed := final ⟨.standard, .memory, true, .absent⟩ removal
      (.start {} ⟨fun _ => .counting 0, 0⟩)
    removed.table.GivenOut ⟨1⟩ ∧ (∀ isPrivate, removed.table.hasObject isPrivate ⟨1⟩ = false) ∧
      Lasting ⟨1⟩ removed.table (reports ⟨.standard, .memory, true, .absent⟩
        [.operate (.update ⟨1⟩ ⟨false, [4]⟩), .reopen .silent none, .operate .loadPublic]
        removed) := by
  have given : (final ⟨.standard, .memory, true, .absent⟩ removal
      (.start {} ⟨fun _ => .counting 0, 0⟩)).table.GivenOut ⟨1⟩ :=
    ⟨2, by decide, by decide +kernel⟩
  exact ⟨given, by decide +kernel, lasting_of_givenOut _ removal _ _ _ _ given⟩

end Lifetime

end ObjectVault
