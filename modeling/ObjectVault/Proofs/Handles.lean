import Mathlib.Algebra.Group.Nat.Defs
import ObjectVault.Proofs.Reachable

/-!
# Handles are given out once

The counter of a database carries over failures, panics and reopenings what no session remembers:
which handles have been given out. A handle that is issued is the number at which the counter
stands, the counter never goes back (`pairwise_level`), and whatever happened under a handle
happened below the counter. `handles_unique` draws the conclusions.
-/

namespace ObjectVault

open Exchange

namespace Table

variable {table : Table} {bound : Nat}

/-- No settled database is at level zero. -/
theorem Settled.level_pos (settled : table.Settled) : 0 < table.level := by
  rcases settled with blank | ⟨next, ready⟩
  · rw [blank.level]
    exact Nat.one_pos
  · rw [ready.level]
    exact ready.positive

/-- The handle of an object in a settled database is less than its counter. -/
theorem Settled.lt_level {category : Category} {number : UInt32} (settled : table.Settled)
    (isObject : category ≠ .internal) (stored : table.Stores category number) :
    number.toNat < table.level := by
  rcases settled with blank | ⟨next, ready⟩
  · exact absurd stored blank.not_stores
  · rw [ready.level]
    exact (ready.below isObject stored).2

/-- A counter that has been moved past a number stands above it. -/
theorem SettledUpTo.lt_of_counter {number : UInt32}
    (upTo : SettledUpTo bound
      (table.insert MetadataItem.nextHandle.key (Decimal.render (number + 1).toNat))) :
    number.toNat < bound := by
  obtain ⟨settled, low⟩ := upTo
  have stands : level
      (table.insert MetadataItem.nextHandle.key (Decimal.render (number + 1).toNat)) =
        (number + 1).toNat := by
    rw [level, SortedMap.get?_insert_self, Option.bind_some, Decimal.parse?_render]
    rfl
  have positive := settled.level_pos
  rw [stands] at positive low
  have left : number ≠ Metadata.lastNumber := by
    rintro rfl
    exact absurd positive (by decide)
  rw [Metadata.toNat_add_one left] at low
  exact low

end Table

namespace Session

variable {table : Table} {next : UInt32} {blob : Blob} {before after : Memory}
  {exchanges : List Exchange} {ending : Ending Handle}

/-- A handle that is issued is the number at which the counter stood, and the counter stands just
past it. -/
theorem Placing.issued {handle : Handle} (ready : table.Ready next)
    (placing : Placing table next blob before exchanges ending after)
    (done : ending = .done handle) :
    handle = ⟨next⟩ ∧ next ≠ Metadata.lastNumber ∧
      (afterAll exchanges table).level = next.toNat + 1 := by
  cases placing with
  | refused quiet unchanged failing => exact absurd done (failing handle)
  | spent left target unchanged failing => exact absurd done (failing handle)
  | @stored envelope nonces left keyed =>
    cases done
    refine ⟨rfl, left, ?_⟩
    rw [← Metadata.toNat_add_one left, ← (ready.advance left).level]
    simp only [Table.level, afterAll_append, Metadata.afterAll_counting, afterAll, Exchange.after,
      Table.get?_key_insert_encode]

/-- A new object is written where there is no object of either category. -/
theorem Placing.untouched (ready : table.Ready next)
    (placing : Placing table next blob before exchanges ending after) {entry : Entry}
    (member : entry ∈ entries exchanges table) {category other : Category} {number : UInt32}
    {value : Bytes} {durability : Durability} {reply : Reply Unit}
    (written : entry.exchange = .put (BlobKey.encode category number) value durability reply)
    (isObject : other ≠ .internal) : ¬ entry.before.Stores other number := by
  have free : ¬ Table.Stores
      (table.insert MetadataItem.nextHandle.key (Decimal.render (next + 1).toNat)) other next := by
    intro stored
    exact Nat.lt_irrefl _ (ready.below isObject (Table.stores_insert_key.1 stored)).2
  have notCounting : entry ∉ entries (Metadata.counting next) table := by
    intro early
    have exchange := exchange_mem_of_mem_entries early
    rw [written] at exchange
    simp [Metadata.counting, BlobKey.encode_ne_key] at exchange
  cases placing with
  | refused quiet =>
    exact absurd written (quiet _ (exchange_mem_of_mem_entries member) _ _ _ _ _)
  | spent left target unchanged failing =>
    rw [entries_append, List.mem_append] at member
    have late := member.resolve_left notCounting
    obtain ⟨envelope, answer, same⟩ := target _ (exchange_mem_of_mem_entries late)
    rw [written] at same
    obtain ⟨_, rfl⟩ := BlobKey.encode_inj.1 (Exchange.put.inj same).1
    rw [(unchanged _).of_mem_entries late]
    exact free
  | stored left keyed =>
    rw [entries_append, List.mem_append] at member
    rcases member.resolve_left notCounting with _ | ⟨_, impossible⟩
    · obtain ⟨_, rfl⟩ := BlobKey.encode_inj.1 (Exchange.put.inj written).1
      exact free
    · cases impossible

end Session

namespace Lifetime

/-- The handle that a step issues to a new object. -/
def Report.issued? (report : Report) : Option Handle :=
  match report.step, report.outcome with
  | .operate (.insert _), .answer (.done (.handle handle)) => some handle
  | _, _ => none

/-- Whether an insertion has moved the counter past a handle. -/
def Report.Spends (report : Report) (handle : Handle) : Prop :=
  (∃ blob, report.step = .operate (.insert blob)) ∧
    ∃ entry ∈ report.entries, entry.exchange =
      .put MetadataItem.nextHandle.key (Decimal.render (handle.number + 1).toNat) .synced (.done ())

/-- Whether a step has removed the object under a handle. -/
def Report.Frees (report : Report) (handle : Handle) : Prop :=
  ∃ entry ∈ report.entries, ∃ category durability, category ≠ .internal ∧
    entry.exchange = .delete (BlobKey.encode category handle.number) durability (.done ()) ∧
      entry.before.contains (BlobKey.encode category handle.number) = true

/-- Whether handles are given out once only. -/
structure HandlesUnique (reports : List Report) : Prop where
  increasing : (reports.filterMap Report.issued?).Pairwise fun earlier later =>
    earlier.number < later.number
  /-- Handles that are issued are positive, and none is the last number. -/
  bounded : ∀ handle ∈ reports.filterMap Report.issued?,
    1 ≤ handle.number.toNat ∧ handle.number.toNat ≤ 2 ^ 32 - 2
  /-- A handle that was spent, on an object that was stored or not, is not issued later. -/
  spent : reports.Pairwise fun earlier later => ∀ handle, earlier.Spends handle →
    later.issued? ≠ some handle
  /-- The handle of an object that was removed is not issued later. -/
  freed : reports.Pairwise fun earlier later => ∀ handle, earlier.Frees handle →
    later.issued? ≠ some handle
  /-- An insertion writes where there is no object of either category. -/
  untouched : ∀ report ∈ reports, ∀ blob, report.step = .operate (.insert blob) →
    ∀ entry ∈ report.entries, ∀ category number value durability reply,
      entry.exchange = .put (BlobKey.encode category number) value durability reply →
        entry.before.contains (BlobKey.encode .publicObject number) = false ∧
          entry.before.contains (BlobKey.encode .privateObject number) = false

/-- The entries of a step are those of its exchanges. -/
theorem entries_of_making {report : Report} {exchanges : List Exchange}
    (history : report.after.history = report.before.history.making exchanges) :
    report.entries = entries exchanges report.before.table := by
  rw [Report.entries, history]
  exact List.drop_left

/-- The step of a report that issues a handle is an insertion. -/
theorem of_issued? {report : Report} {handle : Handle} (issued : report.issued? = some handle) :
    ∃ blob, report.step = .operate (.insert blob) ∧
      report.outcome = .answer (.done (.handle handle)) := by
  unfold Report.issued? at issued
  split at issued
  · next _ _ blob found isStep isOutcome =>
    cases issued
    exact ⟨blob, isStep, isOutcome⟩
  · cases issued

/-- What a report says about the counter. -/
structure Counted (report : Report) : Prop where
  /-- The database is settled during the step, and its counter does not run ahead. -/
  upTo : ∀ entry ∈ report.entries, entry.before.SettledUpTo report.after.table.level ∧
    (entry.exchange.after entry.before).SettledUpTo report.after.table.level
  monotone : report.before.table.level ≤ report.after.table.level
  /-- A handle that is issued is where the counter stood, and the counter stands just past it. -/
  issued : ∀ handle, report.issued? = some handle →
    0 < handle.number.toNat ∧ handle.number ≠ Metadata.lastNumber ∧
      handle.number.toNat = report.before.table.level ∧
        report.after.table.level = handle.number.toNat + 1
  untouched : ∀ blob, report.step = .operate (.insert blob) →
    ∀ entry ∈ report.entries, ∀ category number value durability reply other,
      entry.exchange = .put (BlobKey.encode category number) value durability reply →
        other ≠ .internal → ¬ entry.before.Stores other number

/-- How an insertion goes in a coherent situation. -/
theorem Going.placing {setting : Setting} {before after : Standing} {blob : Blob}
    {exchanges : List Exchange} {outcome : Outcome} {table : Table}
    (coherent : before.Coherent table) (truthful : AllTruthful exchanges table)
    (going : Going setting before (.operate (.insert blob)) exchanges outcome after) :
    (exchanges = [] ∧ ∀ answer, outcome ≠ .answer (.done answer)) ∨
      ∃ next memory stored later, table.Ready next ∧ outcome = .answer (stored.map .handle) ∧
        Session.Placing table next blob memory exchanges stored later := by
  cases going with
  | idle => exact .inl ⟨rfl, by simp⟩
  | refused => exact .inl ⟨rfl, by simp⟩
  | performed performing =>
    obtain ⟨⟨next, ready⟩, backed⟩ := coherent
    cases performing with
    | insert inserting =>
      exact .inr ⟨next, _, _, _, ready, rfl, inserting.placing ready backed truthful⟩

variable {setting : Setting} {disk : Disk} {nonces : NonceSupply} {steps : List Step}

/-- Every step of a lifetime treats the counter well. -/
theorem counted_of_mem_reports {report : Report}
    (member : report ∈ reports setting steps (.start disk nonces)) : Counted report := by
  obtain ⟨coherent, exchanges, yields, history, going⟩ := going_of_mem_reports member
  have entriesAre := entries_of_making history
  have tableIs := table_of_making history
  obtain ⟨throughout, _⟩ := going.coherent coherent.standing yields.truthful
  rw [← tableIs] at throughout
  refine ⟨?_, throughout.before.2, ?_, ?_⟩
  · intro entry member
    rw [entriesAre] at member
    exact ⟨throughout.of_mem_entries member, throughout.after_of_mem_entries member⟩
  · intro handle issued
    obtain ⟨blob, step, outcome⟩ := of_issued? issued
    rw [step] at going
    rcases going.placing coherent.standing yields.truthful with
      ⟨_, unanswered⟩ | ⟨next, memory, stored, later, ready, answered, placing⟩
    · exact absurd outcome (unanswered _)
    · rw [outcome] at answered
      obtain ⟨found, done, here⟩ := Ending.map_eq_done.1 (Outcome.answer.inj answered).symm
      cases here
      obtain ⟨rfl, left, level⟩ := placing.issued ready done
      rw [tableIs, level, ready.level]
      exact ⟨ready.positive, left, rfl, rfl⟩
  · intro blob step entry member category number value durability reply other written isObject
    rw [entriesAre] at member
    rw [step] at going
    rcases going.placing coherent.standing yields.truthful with
      ⟨rfl, _⟩ | ⟨next, memory, stored, later, ready, _, placing⟩
    · cases member
    · exact placing.untouched ready member written isObject

/-- The counter stands no lower before a later step than after an earlier one. -/
theorem level_le_of_mem_reports {situation : Situation} (coherent : situation.Coherent)
    {report : Report} (member : report ∈ reports setting steps situation) :
    situation.table.level ≤ report.before.table.level := by
  induction steps generalizing situation with
  | nil => cases member
  | cons step rest ih =>
    rcases List.mem_cons.1 member with rfl | later
    · exact Nat.le_of_eq (by rw [take_before])
    · obtain ⟨exchanges, yields, history, going⟩ := take_going setting step situation
      obtain ⟨throughout, _⟩ := going.coherent coherent.standing yields.truthful
      have monotone : situation.table.level ≤ (take setting step situation).after.table.level := by
        rw [table_of_making history]
        exact throughout.before.2
      exact Nat.le_trans monotone (ih (coherent_take step situation coherent) later)

/-- The counter never goes back from one step to a later one. -/
theorem pairwise_level (setting : Setting) (steps : List Step) {situation : Situation}
    (coherent : situation.Coherent) :
    (reports setting steps situation).Pairwise fun earlier later =>
      earlier.after.table.level ≤ later.before.table.level := by
  induction steps generalizing situation with
  | nil => exact .nil
  | cons step rest ih =>
    have kept : (take setting step situation).after.Coherent :=
      coherent_take step situation coherent
    exact .cons (fun later member => level_le_of_mem_reports kept member) (ih kept)

/-- A handle below the counter is not issued any more. -/
theorem Counted.ne_issued {earlier later : Report} (counted : Counted later)
    (ordered : earlier.after.table.level ≤ later.before.table.level) {handle : Handle}
    (below : handle.number.toNat < earlier.after.table.level) : later.issued? ≠ some handle := by
  intro issued
  have stands := (counted.issued handle issued).2.2.1
  omega

/-- In every lifetime, whatever fails, handles are given out once only. -/
theorem handles_unique (setting : Setting) (steps : List Step) (disk : Disk)
    (nonces : NonceSupply) : HandlesUnique (reports setting steps (.start disk nonces)) := by
  have ordered := pairwise_level setting steps (coherent_start disk nonces)
  constructor
  · rw [List.pairwise_filterMap]
    refine ordered.imp_of_mem fun {earlier later} first second le => ?_
    intro handle issued other issuedLater
    have low := (counted_of_mem_reports first).issued handle issued
    have high := (counted_of_mem_reports second).issued other issuedLater
    rw [UInt32.lt_iff_toNat_lt]
    omega
  · intro handle member
    obtain ⟨report, member, issued⟩ := List.mem_filterMap.1 member
    obtain ⟨positive, left, _⟩ := (counted_of_mem_reports member).issued handle issued
    have fits := (handle.number + 1).toNat_lt
    rw [Metadata.toNat_add_one left] at fits
    omega
  · -- The table that the write of the counter left was settled, which is all that is known of it
    -- if the insertion failed later.
    refine ordered.imp_of_mem fun {earlier later} first second le handle spends => ?_
    obtain ⟨_, entry, member, written⟩ := spends
    have upTo := ((counted_of_mem_reports first).upTo entry member).2
    rw [written] at upTo
    exact (counted_of_mem_reports second).ne_issued le upTo.lt_of_counter
  · refine ordered.imp_of_mem fun {earlier later} first second le handle frees => ?_
    obtain ⟨entry, member, category, durability, isObject, _, stored⟩ := frees
    obtain ⟨settled, low⟩ := ((counted_of_mem_reports first).upTo entry member).1
    have below := settled.lt_level isObject (Table.contains_encode.1 stored)
    exact (counted_of_mem_reports second).ne_issued le (Nat.lt_of_lt_of_le below low)
  · intro report member blob step entry inReport category number value durability reply written
    have free {other : Category} (isObject : other ≠ .internal) :=
      (counted_of_mem_reports member).untouched blob step entry inReport category number value
        durability reply other written isObject
    rw [← Bool.not_eq_true, ← Bool.not_eq_true, Table.contains_encode, Table.contains_encode]
    exact ⟨free (by simp), free (by simp)⟩

end Lifetime

end ObjectVault
