import ObjectVault.Proofs.Failure
import ObjectVault.Proofs.Sight

/-!
# Deletions that are repeated

A deletion goes by what the session knows of a handle, and afterwards knows it no longer. So a
second one is about the internal blob with that number (`Going.deleted`). It changes nothing if the
first one was about that blob as well, and takes the blob away if the first one was about an object
(`deletion_repeated`).
-/

namespace ObjectVault

open Exchange

/-- To remove a key under which there is nothing changes nothing. -/
theorem SortedMap.erase_of_absent {κ ν : Type} [Ord κ] [Std.TransOrd κ] [Std.LawfulEqOrd κ]
    {map : SortedMap κ ν} {key : κ} (absent : map.get? key = none) : map.erase key = map := by
  apply ext_get?
  intro other
  by_cases same : other = key
  · subst same
    rw [get?_erase_self, absent]
  · exact get?_erase_of_ne map same

namespace Lifetime

/-- Whether a vault is open and knows an object by a handle. -/
def Situation.knows (situation : Situation) (handle : Handle) : Bool :=
  match situation with
  | .closed .. => false
  | .opened vault => vault.session.categories.contains handle

section Going

variable {setting : Setting} {before after : Standing} {handle : Handle}
  {exchanges : List Exchange}

/-- A deletion that is answered has removed one key, and the handle is forgotten. -/
theorem Going.deleted {answer : Vault.Answer}
    (going : Going setting before (.operate (.delete handle)) exchanges (.answer (.done answer))
      after) :
    ∃ memory, before = .working memory ∧ after = .working (memory.without handle) ∧
      ∀ table, afterAll exchanges table =
        table.erase (BlobKey.encode (memory.categoryOf handle) handle.number) := by
  generalize outcome : Ending.done answer = ending at going
  cases going with
  | refused => cases outcome
  | @performed memory _ _ _ later performing =>
    cases performing with
    | delete deleting =>
      obtain ⟨_, done, _⟩ := Ending.map_eq_done.1 outcome.symm
      cases deleting with
      | deleted => exact ⟨memory, rfl, rfl, fun _ => rfl⟩
      | undeleted failing => exact absurd (Reply.ending_eq_done.1 done) failing

/-- If every call works, an open vault answers a deletion. -/
theorem Going.answers_delete {memory : Memory} {outcome : Outcome}
    (succeed : ∀ exchange ∈ exchanges, exchange.Succeeds)
    (going : Going setting (.working memory) (.operate (.delete handle)) exchanges outcome
      after) : outcome = .answer (.done .nothing) := by
  cases going with
  | performed performing =>
    cases performing with
    | delete deleting =>
      cases deleting with
      | deleted => rfl
      | undeleted failing => exact absurd (succeed _ (.head _)) failing

end Going

/-- A vault that works knows what it keeps in mind. -/
theorem Situation.knows_of_working {handle : Handle} {situation : Situation} {memory : Memory}
    (working : situation.standing = .working memory) :
    situation.knows handle = memory.categories.contains handle := by
  obtain ⟨vault, rfl, _, rfl⟩ := Situation.exists_of_working working
  rfl

/-- A handle that is forgotten is taken for the number of an internal blob. -/
theorem categoryOf_without (memory : Memory) (handle : Handle) :
    (memory.without handle).categoryOf handle = .internal := by
  simp [Memory.categoryOf, Memory.without]

/-- If a deletion is answered, the same deletion is answered once more if nothing goes wrong, and
then the internal blob with the number of the handle is gone. Nothing else is changed, and nothing
at all if the handle was not known at first. -/
theorem deletion_repeated (setting : Setting) (steps : List Step) (disk : Disk)
    (nonces : NonceSupply) (handle : Handle) :
    let situation := final setting steps (.start disk nonces)
    let first := take setting (.operate (.delete handle)) situation
    let second := take setting.calm (.operate (.delete handle)) first.after
    first.outcome = .answer (.done .nothing) →
      second.outcome = .answer (.done .nothing) ∧
        second.after.table =
          if situation.knows handle then
            first.after.table.erase (BlobKey.encode .internal handle.number)
          else first.after.table := by
  intro situation first second answered
  obtain ⟨exchanges, _, history, going⟩ :=
    take_going setting (.operate (.delete handle)) situation
  rw [answered] at going
  obtain ⟨memory, working, left, removed⟩ := going.deleted
  have leaves := table_of_making history
  rw [removed] at leaves
  obtain ⟨others, yields, later, again⟩ :=
    take_going setting.calm (.operate (.delete handle)) first.after
  rw [left] at again
  have succeed := yields.succeed setting.unhindered_calm.harmless
  have alsoAnswered : second.outcome = .answer (.done .nothing) := again.answers_delete succeed
  refine ⟨alsoAnswered, ?_⟩
  rw [alsoAnswered] at again
  obtain ⟨_, isWorking, _, alsoRemoved⟩ := again.deleted
  cases isWorking
  have leavesAgain := table_of_making later
  rw [alsoRemoved, categoryOf_without] at leavesAgain
  rw [Situation.knows_of_working working, leavesAgain]
  split
  · rfl
  · next unknown =>
    -- The first deletion was about the internal blob, so that there is none any more.
    have category : memory.categoryOf handle = .internal := by
      rw [SortedMap.contains, Option.not_isSome_iff_eq_none] at unknown
      simp [Memory.categoryOf, unknown]
    rw [category] at leaves
    apply SortedMap.erase_of_absent
    change SortedMap.get? (take setting _ situation).after.table _ = none
    rw [leaves, SortedMap.get?_erase_self]

namespace Deletion

/-- A setting in which nothing goes wrong. -/
def setting : Setting := ⟨.standard, .memory, true, .absent⟩

/-- A program that stores an object, and an internal blob under its number. -/
def steps : List Step := [
  .reopen .silent none, .operate (.insert ⟨false, [1, 2]⟩),
  .operate (.setInternal 1 [192, 255, 238])]

/-- The nonces that it draws. -/
def nonces : NonceSupply := ⟨fun _ => .counting 0, 0⟩

end Deletion

/-- A second deletion may remove an internal blob. -/
theorem deletion_not_idempotent :
    ¬ ∀ (setting : Setting) (steps : List Step) (disk : Disk) (nonces : NonceSupply)
      (handle : Handle),
      let situation := final setting steps (.start disk nonces)
      let first := take setting (.operate (.delete handle)) situation
      let second := take setting.calm (.operate (.delete handle)) first.after
      first.outcome = .answer (.done .nothing) →
        second.outcome = .answer (.done .nothing) ∧ second.after.table = first.after.table := by
  intro idempotent
  obtain ⟨_, same⟩ := idempotent Deletion.setting Deletion.steps {} Deletion.nonces ⟨1⟩ rfl
  revert same
  decide +kernel

/-- An internal blob is removed by the second of two deletions of the object that has its number. -/
theorem deletion_repeated_number :
    let situation := final Deletion.setting Deletion.steps (.start {} Deletion.nonces)
    let first := take Deletion.setting (.operate (.delete ⟨1⟩)) situation
    let second := take Deletion.setting.calm (.operate (.delete ⟨1⟩)) first.after
    first.outcome = .answer (.done .nothing) ∧ situation.knows ⟨1⟩ = true ∧
      first.after.table.contains (BlobKey.encode .internal 1) = true ∧
      second.outcome = .answer (.done .nothing) ∧
      second.after.table = first.after.table.erase (BlobKey.encode .internal 1) := by
  intro situation first second
  have answered : first.outcome = .answer (.done .nothing) := by rfl
  have known : situation.knows ⟨1⟩ = true := by rfl
  obtain ⟨alsoAnswered, left⟩ :=
    deletion_repeated Deletion.setting Deletion.steps {} Deletion.nonces ⟨1⟩ answered
  rw [if_pos known] at left
  exact ⟨answered, known, by decide +kernel, alsoAnswered, left⟩

end Lifetime

end ObjectVault
