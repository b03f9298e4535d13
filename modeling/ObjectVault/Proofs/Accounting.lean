import Mathlib.Data.List.Nodup
import ObjectVault.Proofs.Causes
import ObjectVault.Proofs.Frame

/-!
# The account of a deletion of all objects

To delete all objects is to remove many keys, each of which may be refused. What is in the database
afterwards, what was answered and what is left for another attempt all follow from the list of
removals and the replies to them (`Session.Sweeping.removals_eq`, `Report.Accounted`).
-/

namespace ObjectVault

open Exchange

namespace Exchange

/-- The key that is to be removed and the reply. -/
def removal? : Exchange → Option (Bytes × Reply Unit)
  | .delete key _ reply => some (key, reply)
  | _ => none

/-- If nothing is stored, just those keys are missing afterwards whose removal works. -/
theorem get?_afterAll_of_removals {exchanges : List Exchange} {table : Table}
    (noneStored : ∀ key value durability reply, .put key value durability reply ∉ exchanges)
    (key : Bytes) :
    (afterAll exchanges table).get? key =
      if (key, .done ()) ∈ exchanges.filterMap removal? then none else table.get? key := by
  induction exchanges generalizing table with
  | nil => simp [afterAll]
  | cons exchange rest ih =>
    have later := @ih (exchange.after table) fun key value durability reply member =>
      noneStored key value durability reply (.tail _ member)
    rw [afterAll, later]
    cases exchange with
    | get _ reply => rfl
    | scan seen => rfl
    | put key value durability reply =>
      exact absurd (.head _) (noneStored key value durability reply)
    | delete removed durability reply =>
      have isRemoval : removal? (.delete removed durability reply) = some (removed, reply) := rfl
      simp only [List.filterMap_cons_some isRemoval, List.mem_cons]
      by_cases works : reply = .done ()
      · subst works
        change (if _ then none else (SortedMap.erase table removed).get? key) = _
        by_cases same : key = removed
        · subst same
          simp
        · simp [SortedMap.get?_erase_of_ne _ same, same]
      · rw [after_delete_of_ne works]
        simp [Ne.symm works]

end Exchange

instance : DecidablePred BlobKey.NamesObject := fun key =>
  decidable_of_iff (∃ blob ∈ BlobKey.decode? key, blob.1 ≠ .internal)
    ⟨fun ⟨blob, decoded, isObject⟩ => ⟨blob.1, blob.2, decoded, isObject⟩,
      fun ⟨category, number, decoded, isObject⟩ => ⟨(category, number), decoded, isObject⟩⟩

namespace Table

/-- The keys of a database that name objects. -/
def objectKeys (table : Table) : List Bytes :=
  table.keys.filter fun key => BlobKey.NamesObject key

variable {table : Table} {key : Bytes}

/-- The keys of objects are those that are stored and name one. -/
theorem mem_objectKeys :
    key ∈ table.objectKeys ↔ BlobKey.NamesObject key ∧ ∃ value, table.get? key = some value := by
  rw [objectKeys, List.mem_filter, SortedMap.mem_keys, decide_eq_true_eq, and_comm]

/-- None of them comes twice. -/
theorem nodup_objectKeys (table : Table) : table.objectKeys.Nodup := by
  refine (table.keys_ascending.imp fun {first second} before same => ?_).filter _
  rw [same, Std.ReflOrd.compare_self] at before
  cases before

/-- The keys that name objects are those of the objects that a scan shows. -/
theorem objectKeys_eq (table : Table) :
    table.objectKeys =
      ((StoredBlob.among table.entries).filter StoredBlob.isObject).map StoredBlob.key := by
  rw [objectKeys, SortedMap.keys, StoredBlob.among]
  induction table.entries with
  | nil => rfl
  | cons entry rest ih =>
    rw [List.map_cons, List.filter_cons, ih]
    cases decoded : BlobKey.decode? entry.1 with
    | none => simp [StoredBlob.ofEntry?, BlobKey.NamesObject, decoded]
    | some blob =>
      obtain ⟨category, number⟩ := blob
      have names : BlobKey.NamesObject entry.1 ↔ category ≠ .internal := by
        simp [BlobKey.NamesObject, decoded]
      have found : StoredBlob.ofEntry? entry = some ⟨entry.1, category, ⟨number⟩, entry.2⟩ := by
        rw [StoredBlob.ofEntry?, decoded, Option.map_some]
      rw [List.filterMap_cons_some found, List.filter_cons]
      by_cases isObject : category = .internal <;> simp [names, StoredBlob.isObject, isObject]

/-- If the keys that name objects are tried, those of them are left whose removal fails. -/
theorem objectKeys_perm {after : Table} {removals : List (Bytes × Reply Unit)}
    (tried : removals.map Prod.fst = table.objectKeys)
    (left : ∀ key, after.get? key =
      if (key, .done ()) ∈ removals then none else table.get? key) :
    after.objectKeys.Perm
      ((removals.filter fun removal => removal.2 ≠ .done ()).map Prod.fst) := by
  have once : (removals.map Prod.fst).Nodup := tried ▸ table.nodup_objectKeys
  have isTried {key : Bytes} : (∃ reply, (key, reply) ∈ removals) ↔
      BlobKey.NamesObject key ∧ ∃ value, table.get? key = some value := by
    rw [← mem_objectKeys, ← tried, List.mem_map]
    simp
  rw [List.perm_ext_iff_of_nodup after.nodup_objectKeys
    ((List.filter_sublist.map Prod.fst).nodup once)]
  intro key
  rw [mem_objectKeys, left]
  simp only [List.mem_map, List.mem_filter, decide_eq_true_eq, Prod.exists, exists_and_right,
    exists_eq_right]
  constructor
  · rintro ⟨names, value, stored⟩
    split at stored
    · cases stored
    · next fails =>
      obtain ⟨reply, member⟩ := isTried.2 ⟨names, value, stored⟩
      refine ⟨reply, member, ?_⟩
      rintro rfl
      exact fails member
  · rintro ⟨reply, member, fails⟩
    obtain ⟨names, value, stored⟩ := isTried.1 ⟨reply, member⟩
    have spared : (key, .done ()) ∉ removals := by
      intro worked
      have same := List.inj_on_of_nodup_map once member worked rfl
      exact fails (congrArg Prod.snd same)
    exact ⟨names, value, by rw [if_neg spared, stored]⟩

end Table

namespace Session

variable {blobs : List StoredBlob} {before after : Memory} {exchanges : List Exchange}

/-- Every blob is tried once, and the failures are counted. -/
theorem Sweeping.removals_eq {failures : Nat}
    (sweeping : Sweeping blobs before exchanges (.done failures) after) :
    (exchanges.filterMap removal?).map Prod.fst = blobs.map StoredBlob.key ∧
      failures = (exchanges.filterMap removal?).countP fun removal => removal.2 ≠ .done () := by
  generalize ends : Ending.done failures = ending at sweeping
  induction sweeping generalizing failures with
  | finished =>
    cases ends
    exact ⟨rfl, rfl⟩
  | deleted sweeping ih =>
    obtain ⟨keys, count⟩ := ih ends
    exact ⟨by simp [removal?, keys], by simp [removal?, count]⟩
  | kept sweeping ih =>
    obtain ⟨fewer, rfl, rfl⟩ := Ending.map_eq_done.1 ends.symm
    obtain ⟨keys, count⟩ := ih rfl
    exact ⟨by simp [removal?, keys], by simp [removal?, count]⟩
  | stopped => cases ends

/-- A sweep panics if a removal does. -/
theorem Sweeping.exists_panicked (sweeping : Sweeping blobs before exchanges .panicked after) :
    ∃ key, .delete key .synced .panicked ∈ exchanges := by
  generalize ends : Ending.panicked = ending at sweeping
  induction sweeping with
  | finished => cases ends
  | deleted _ ih =>
    obtain ⟨key, member⟩ := ih ends
    exact ⟨key, .tail _ member⟩
  | @kept _ _ _ _ _ ending _ _ ih =>
    cases ending with
    | done => cases ends
    | failed => cases ends
    | panicked =>
      obtain ⟨key, member⟩ := ih rfl
      exact ⟨key, .tail _ member⟩
  | @stopped blob => exact ⟨blob.key, .head _⟩

/-- Nothing is stored in a sweep. -/
theorem Sweeping.noneStored {ending : Ending Nat}
    (sweeping : Sweeping blobs before exchanges ending after) (key value : Bytes)
    (durability : Durability) (reply : Reply Unit) :
    .put key value durability reply ∉ exchanges := by
  intro member
  obtain ⟨_, _, _, impossible⟩ := sweeping.removal _ member
  cases impossible

end Session

namespace Adversity

variable {adversity : Adversity} {world later : World Storage} {exchanges : List Exchange}

/-- A scan that works shows all entries. -/
theorem scan_of_makes {seen : Scan} (works : adversity.fateIn world .scan [] = .works)
    (makes : adversity.backend.Makes world (.scan seen :: exchanges) later) :
    seen = ⟨world.history.table.entries, .done ()⟩ := by
  cases makes
  simp only [backend, works]
  rfl

/-- If no removal has it in its fate to panic, none does. -/
theorem delete_ne_panicked
    (returns : ∀ calls key visited, adversity.fate calls .delete key ≠ .panics visited)
    (makes : adversity.backend.Makes world exchanges later) (key : Bytes)
    (durability : Durability) : .delete key durability .panicked ∉ exchanges := by
  induction makes with
  | nothing => simp
  | get _ _ ih => simpa using ih
  | put _ _ _ _ ih => simpa using ih
  | scan _ ih => simpa using ih
  | @delete world _ _ removed _ _ ih =>
    rw [List.mem_cons, not_or]
    refine ⟨fun same => ?_, ih⟩
    have fate := returns world.history.record.length removed
    simp only [backend, Exchange.delete.injEq, fateIn] at same
    cases isFate : adversity.fate world.history.record.length .delete removed with
    | works => simp [isFate, Fate.reply] at same
    | fails => simp [isFate, Fate.reply] at same
    | panics visited => exact fate visited isFate

end Adversity

namespace Lifetime

/-- The removals during a step, each with the reply to it. -/
def Report.removals (report : Report) : List (Bytes × Reply Unit) :=
  report.entries.filterMap fun entry => entry.exchange.removal?

/-- Whether a step accounts for every object of its database. -/
structure Report.Accounted (report : Report) : Prop where
  /-- Every key that names an object is tried, in key order. -/
  tried : report.removals.map Prod.fst = report.before.table.objectKeys
  /-- None is tried twice. -/
  once : (report.removals.map Prod.fst).Nodup
  /-- Just those keys are missing afterwards whose removal works. -/
  left (key : Bytes) : report.after.table.get? key =
    if (key, .done ()) ∈ report.removals then none else report.before.table.get? key
  /-- The answer is how many objects are left, of how many, if any is. -/
  answered : report.outcome = .answer (
    if report.after.table.objectKeys = [] then .done .nothing
    else .failed (.incompleteDeletion report.after.table.objectKeys.length
      report.before.table.objectKeys.length))

/-- The failures are the objects that are left. -/
theorem Report.Accounted.failed_eq {report : Report} {failed attempted : Nat}
    (accounted : report.Accounted)
    (answered : report.outcome = .answer (.failed (.incompleteDeletion failed attempted))) :
    failed = report.after.table.objectKeys.length := by
  have told := accounted.answered.symm.trans answered
  split at told
  · cases told
  · cases told
    rfl

/-- The removals in a report are those among the exchanges of its step. -/
theorem removals_of_making {report : Report} {exchanges : List Exchange}
    (history : report.after.history = report.before.history.making exchanges) :
    report.removals = exchanges.filterMap removal? := by
  have made := map_exchange_entries exchanges report.before.table
  rw [← entries_of_making history] at made
  rw [Report.removals, ← made, List.filterMap_map]
  rfl

/-- If the scan works and no removal panics, a deletion of all objects accounts for all of them. -/
theorem accounted_of_swept {report : Report} {failures : Nat} {before after : Memory}
    {exchanges : List Exchange}
    (sweeping : Session.Sweeping
      ((StoredBlob.among report.before.table.entries).filter StoredBlob.isObject) before exchanges
      (.done failures) after)
    (history : report.after.history = report.before.history.making
      (.scan ⟨report.before.table.entries, .done ()⟩ :: exchanges))
    (answered : report.outcome = .answer (if failures = 0 then .done .nothing
      else .failed (.incompleteDeletion failures
        ((StoredBlob.among report.before.table.entries).filter StoredBlob.isObject).length))) :
    report.Accounted := by
  obtain ⟨keys, count⟩ := sweeping.removals_eq
  have removals : report.removals = exchanges.filterMap removal? :=
    (removals_of_making history :)
  have tried : report.removals.map Prod.fst = report.before.table.objectKeys := by
    rw [removals, keys, Table.objectKeys_eq]
  have left (key : Bytes) : report.after.table.get? key =
      if (key, .done ()) ∈ report.removals then none else report.before.table.get? key := by
    rw [table_of_making history, removals]
    exact get?_afterAll_of_removals sweeping.noneStored key
  have failed : report.after.table.objectKeys.length = failures := by
    rw [(Table.objectKeys_perm tried left).length_eq, List.length_map,
      ← List.countP_eq_length_filter, removals, count]
  refine ⟨tried, tried ▸ Table.nodup_objectKeys _, left, ?_⟩
  have attempted : ((StoredBlob.among report.before.table.entries).filter
      StoredBlob.isObject).length = report.before.table.objectKeys.length := by
    rw [Table.objectKeys_eq, List.length_map]
  rw [answered, attempted, ← failed]
  simp only [List.length_eq_zero_iff]

/-- If the scan works and no removal panics, a deletion of all objects accounts for every one of
them, and the vault stays open with its lock whole. -/
theorem accounted_take {setting : Setting} {vault : Vault (World Storage)}
    (whole : vault.poisoned = false)
    (returns : ∀ calls key visited,
      setting.adversity.fate calls .delete key ≠ .panics visited)
    (scans : setting.adversity.fateIn vault.session.world .scan [] = .works) :
    (take setting (.operate .deleteAll) (.opened vault)).Accounted ∧
      ∃ later, (take setting (.operate .deleteAll) (.opened vault)).after = .opened later ∧
        later.poisoned = false := by
  obtain ⟨exchanges, makes, performing, breaks⟩ :=
    Vault.perform_conduct setting.services .deleteAll ⟨vault, {}⟩ whole
  have history := (setting.adversity.makes_backend makes).2
  generalize ends : ((Vault.perform setting.services .deleteAll).run ⟨vault, {}⟩).1 = ending
    at performing breaks
  generalize Session.memory _ = before, Session.memory _ = after at performing
  have lasting : (take setting (.operate .deleteAll) (.opened vault)).after.history =
      (Situation.opened vault).history.making exchanges := congrArg World.history history
  have outcome : (take setting (.operate .deleteAll) (.opened vault)).outcome =
      .answer ending := congrArg Outcome.answer ends
  cases performing with
  | @deleteAll _ ending _ deleting =>
    cases deleting with
    | unscanned failing =>
      have shown := Adversity.scan_of_makes scans makes
      exact absurd (congrArg Scan.ending shown) failing
    | stopped scanned sweeping =>
      obtain ⟨key, member⟩ := sweeping.exists_panicked
      exact absurd (.tail _ member) (Adversity.delete_ne_panicked returns makes key .synced)
    | @swept seen exchanges failures after scanned sweeping =>
      obtain rfl := Adversity.scan_of_makes scans makes
      refine ⟨accounted_of_swept sweeping lasting ?_, _, rfl, ?_⟩
      · rw [outcome]
        split <;> rfl
      · rw [breaks]
        split <;> rfl

/-- A memory that is backed by a database without objects knows none. -/
theorem categories_eq_empty {memory : Memory} {table : Table} (backed : memory.Backed table)
    (gone : ∀ key, BlobKey.NamesObject key → table.get? key = none) :
    memory.categories = ∅ := by
  apply SortedMap.ext_get?
  intro handle
  cases known : memory.categories.get? handle with
  | none => rfl
  | some category =>
    obtain ⟨isObject, ⟨value, stored⟩, _⟩ := backed handle category known
    rw [gone _ ⟨category, handle.number, BlobKey.decode?_encode _ _, isObject⟩] at stored
    cases stored

/-- In every lifetime, whatever fails, a vault knows no object any more once it has deleted all of
them. -/
theorem forgotten_of_done {setting : Setting} {steps : List Step} {disk : Disk}
    {nonces : NonceSupply} {report : Report} {answer : Vault.Answer}
    (member : report ∈ reports setting steps (.start disk nonces))
    (isDeletion : report.step = .operate .deleteAll)
    (answered : report.outcome = .answer (.done answer)) :
    ∃ vault, report.after = .opened vault ∧ vault.session.categories = ∅ := by
  obtain ⟨coherent, exchanges, yields, _, going⟩ := going_of_mem_reports member
  rw [isDeletion, answered] at going
  obtain ⟨_, agree⟩ := going.coherent coherent.standing yields.truthful
  generalize report.before.standing = before, later : report.after.standing = after
    at going agree
  generalize ends : Ending.done answer = ending at going
  cases going with
  | refused => cases ends
  | performed performing =>
    cases performing with
    | deleteAll deleting =>
      obtain ⟨_, done, _⟩ := Ending.map_eq_done.1 ends.symm
      subst done
      obtain ⟨vault, isOpen, _, rfl⟩ := Situation.exists_of_working later
      have gone := deleting.effect yields.truthful
      have backed := agree.2
      generalize report.before.table = table, afterAll exchanges _ = left at gone backed
      cases gone with
      | swept gone kept => exact ⟨vault, isOpen, categories_eq_empty backed gone⟩
      | read onlyReads => cases onlyReads

/-- Whatever is in a database and whichever removals are refused, a deletion of all objects accounts
for every one of them if the scan works, and another one right after it tries what is left. Where
the database was empty at first, no object is known after one that succeeds. -/
theorem deletion_accounted (setting : Setting) :
    (∀ vault : Vault (World Storage), vault.poisoned = false →
      (∀ calls key visited, setting.adversity.fate calls .delete key ≠ .panics visited) →
      setting.adversity.fateIn vault.session.world .scan [] = .works →
        let first := take setting (.operate .deleteAll) (.opened vault)
        let second := take setting (.operate .deleteAll) first.after
        first.Accounted ∧
          (setting.adversity.fateIn first.after.world .scan [] = .works →
            second.Accounted ∧ ∀ failed attempted,
              first.outcome = .answer (.failed (.incompleteDeletion failed attempted)) →
                second.removals.length = failed)) ∧
    ∀ steps disk nonces, ∀ report ∈ reports setting steps (.start disk nonces), ∀ answer,
      report.step = .operate .deleteAll → report.outcome = .answer (.done answer) →
        ∃ vault, report.after = .opened vault ∧ vault.session.categories = ∅ := by
  constructor
  · intro vault whole returns scans first second
    obtain ⟨accounted, later, isOpen, stillWhole⟩ := accounted_take whole returns scans
    refine ⟨accounted, fun scansAgain => ?_⟩
    have again : second.Accounted := by
      change first.after = .opened later at isOpen
      simp only [second, isOpen] at scansAgain ⊢
      exact (accounted_take stillWhole returns scansAgain).1
    refine ⟨again, fun failed attempted answered => ?_⟩
    have left : failed = first.after.table.objectKeys.length := accounted.failed_eq answered
    have before : second.before = first.after := take_before _ _ _
    rw [left, ← before, ← again.tried, List.length_map]
  · intro steps disk nonces report member answer
    exact forgotten_of_done member

namespace Refusal

/-- A setting in which private objects are not removed. -/
def setting : Setting where
  suite := .standard
  root := .memory
  supportsMemory := true
  adversity := {
    fate := fun _ kind key =>
      if kind = .delete ∧ (BlobKey.decode? key).any (·.1 = .privateObject) then
        .fails ⟨.io, "busy"⟩ 0
      else .works
    obstacle := fun _ => none }

/-- A database with three objects, two of which have the same number, among other things. -/
def table : Table := .ofList [
  (Bytes.ofText "DBVersion", Bytes.ofText "1"),
  (Bytes.ofText "InternalBlob&1", [1]),
  (Bytes.ofText "PrivateBlob&4", [2, 3]),
  (Bytes.ofText "PublicBlob&007", []),
  (Bytes.ofText "PublicBlob&7", [4]),
  (Bytes.ofText "Stray&7", [5])]

/-- A vault on the database. -/
def vault : Vault (World Storage) :=
  { session := ⟨⟨{}, { history := ⟨table, []⟩ }⟩, ⟨.counting, 0⟩, none, ∅⟩ }

/-- A program that stores a public object and deletes all objects. -/
def steps : List Step :=
  [.reopen .silent none, .operate (.insert ⟨false, [1, 2]⟩), .operate .deleteAll]

end Refusal

/-- Of three objects one is left that is tried again, and a program that has stored one and deleted
all of them knows none. -/
theorem deletion_accounted_refused :
    let setting := Refusal.setting
    let first := take setting (.operate .deleteAll) (.opened Refusal.vault)
    let second := take setting (.operate .deleteAll) first.after
    first.outcome = .answer (.failed (.incompleteDeletion 1 3)) ∧ first.Accounted ∧
      second.Accounted ∧ second.removals.length = 1 ∧
      ∃ vault, final setting Refusal.steps (.start {} (.ofList [])) = .opened vault ∧
        vault.session.categories = ∅ := by
  intro setting first second
  have outcome : first.outcome = .answer (.failed (.incompleteDeletion 1 3)) := by rfl
  have returns (calls : Nat) (key : Bytes) (visited : Nat) :
      setting.adversity.fate calls .delete key ≠ .panics visited := by
    simp only [setting, Refusal.setting]
    split <;> simp
  obtain ⟨⟨accounted, again⟩, forgotten⟩ :=
    (deletion_accounted setting).imp_left fun accounts => accounts Refusal.vault rfl returns rfl
  obtain ⟨accountedAgain, count⟩ := again rfl
  refine ⟨outcome, accounted, accountedAgain, count 1 3 outcome, ?_⟩
  exact forgotten Refusal.steps {} _ _ (.tail _ (.tail _ (.head _))) .nothing rfl rfl

end Lifetime

end ObjectVault
