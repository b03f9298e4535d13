import Mathlib.Data.List.Induction
import ObjectVault.Command.Run
import ObjectVault.Proofs.Coherence

/-!
# Shelves

What the commands work on, to someone who only types them and reads what they print: a counter, the
objects and the internal blobs, each as the text by which it was given. `Shelf.results` is what
comes of a series of commands. The handles that are printed are counted from the first on
(`Shelf.handles_results`), and a command that fails leaves the shelf as it is
(`Shelf.carryOut_of_failed`), unless it is to store more than the cipher takes. What is on the shelf
was put there by one of the commands and spared by all later ones (`Shelf.get?_objects_after`,
`Shelf.get?_internal_after`).
-/

namespace ObjectVault

namespace Command

/-- The text by which bytes are printed that were given by a text. -/
def spelling (hex : String) : String := (Blank.trim hex).toLower

/-- Whether the cipher takes the object that a command is to store. It takes all but those of 2 ^ 38
bytes, less 64, or more, whose text is twice as long. -/
def Fits : Command → Prop
  | .insert _ hex => ∀ payload, readHex hex = .ok payload → Aead.fits payload.length = true
  | _ => True

end Command

open Command

/-- An object on a shelf. -/
structure Shelf.Item where
  isPrivate : Bool
  /-- The text by which it is printed. -/
  text : String
  deriving DecidableEq

/-- What the commands have left. -/
@[ext] structure Shelf where
  /-- Whether there was no command yet. -/
  isNew : Bool := true
  /-- The number of the next handle. -/
  next : UInt32 := Metadata.firstHandle
  /-- The objects. -/
  objects : SortedMap Handle Shelf.Item := ∅
  /-- The texts of the internal blobs. -/
  internal : SortedMap UInt32 String := ∅

namespace Shelf

/-- The shelf after a command that leaves it as it is. -/
def touched (shelf : Shelf) : Shelf := { shelf with isNew := false }

/-- The objects of a privacy, in the order of their handles. -/
def listing (shelf : Shelf) (isPrivate : Bool) : String :=
  jsonObject
    ((shelf.objects.entries.filter fun entry => entry.2.isPrivate == isPrivate).map
      fun entry => (entry.1.message, jsonText entry.2.text))

/-- Stores an object under the next handle. The handle is spent on an object that is longer than
the cipher takes. -/
def insert (shelf : Shelf) (isPrivate : Bool) (hex : String) : Result × Shelf :=
  match readHex hex with
  | .error failure => (.failed failure, shelf)
  | .ok payload =>
    if shelf.next = Metadata.lastNumber then (.failed (.ofVault .idSpaceExhausted), shelf)
    else if Aead.fits payload.length then
      (.printed (line (Handle.mk shelf.next).message),
        { shelf with
          next := shelf.next + 1
          objects := shelf.objects.insert ⟨shelf.next⟩ ⟨isPrivate, spelling hex⟩ })
    else
      (.failed (.ofVault (.encryption "aead::Error")), { shelf with next := shelf.next + 1 })

/-- Stores an internal blob. -/
def note (shelf : Shelf) (number : UInt32) (hex : String) : Result × Shelf :=
  match readHex hex with
  | .error failure => (.failed failure, shelf)
  | .ok _ =>
    (.printed "", { shelf with internal := shelf.internal.insert number (spelling hex) })

/-- Removes an object. -/
def delete (shelf : Shelf) (handle : Handle) : Result × Shelf :=
  if shelf.objects.contains handle then
    (.printed "", { shelf with objects := shelf.objects.erase handle })
  else (.failed ⟨"no readable object with handle " ++ handle.message, []⟩, shelf)

/-- Carries out a command. -/
def carryOut (shelf : Shelf) : Command → Result × Shelf
  | .init =>
    (.printed (line (report (⟨(), .opened, shelf.isNew⟩ : Opened Unit) Metadata.formatVersion)),
      shelf.touched)
  | .insert isPrivate hex => shelf.touched.insert isPrivate hex
  | .list isPrivate => (.printed (line (shelf.listing isPrivate)), shelf.touched)
  | .delete handle => shelf.touched.delete handle
  | .wipe => (.printed "", { shelf.touched with objects := ∅ })
  | .setInternal number hex => shelf.touched.note number hex
  | .getInternal number =>
    (.printed (line (((shelf.internal.get? number).map jsonText).getD "null")), shelf.touched)

/-- What comes of some commands. -/
def results (shelf : Shelf) : List Command → List Result
  | [] => []
  | command :: rest => (shelf.carryOut command).1 :: (shelf.carryOut command).2.results rest

/-- What some commands leave. -/
def after (shelf : Shelf) (commands : List Command) : Shelf :=
  commands.foldl (fun shelf command => (shelf.carryOut command).2) shelf

/-- A command that fails leaves the shelf as it is, unless it is to store more than the cipher
takes. -/
theorem carryOut_of_failed {shelf : Shelf} {command : Command} {failure : Failure}
    (fits : command.Fits) (failed : (shelf.carryOut command).1 = .failed failure) :
    (shelf.carryOut command).2 = shelf.touched := by
  cases command with
  | insert isPrivate hex =>
    simp only [carryOut, insert] at failed ⊢
    split at failed
    · rfl
    · next payload reads =>
      split at failed
      · next last => rw [if_pos last]
      · next left =>
        rw [if_pos (fits payload reads)] at failed
        cases failed
  | setInternal number hex =>
    simp only [carryOut, note] at failed ⊢
    split at failed
    · rfl
    · cases failed
  | delete handle =>
    simp only [carryOut, delete] at failed ⊢
    split at failed
    · cases failed
    · next unknown => rw [if_neg unknown]
  | init | list | wipe | getInternal => cases failed

/-- What the insertions among some commands print. -/
def handles (commands : List Command) (results : List Result) : List String :=
  (commands.zip results).filterMap fun
    | (.insert _ _, .printed out) => some out
    | _ => none

/-- If a command prints a handle, it is the next one, and otherwise no handle is spent, unless the
command is to store more than the cipher takes. -/
theorem carryOut_counts (shelf : Shelf) {command : Command} (fits : command.Fits) :
    (shelf.next ≠ Metadata.lastNumber ∧
        (shelf.carryOut command).2.next = shelf.next + 1 ∧
        handles [command] [(shelf.carryOut command).1] =
          [line (toString shelf.next.toNat)]) ∨
      ((shelf.carryOut command).2.next = shelf.next ∧
        handles [command] [(shelf.carryOut command).1] = []) := by
  cases command with
  | insert isPrivate hex =>
    simp only [carryOut, insert]
    split
    · exact .inr ⟨rfl, rfl⟩
    · next payload reads =>
      split
      · exact .inr ⟨rfl, rfl⟩
      · next left =>
        rw [if_pos (fits payload reads)]
        exact .inl ⟨left, rfl, rfl⟩
  | setInternal number hex =>
    simp only [carryOut, note]
    split <;> exact .inr ⟨rfl, rfl⟩
  | delete handle =>
    simp only [carryOut, delete]
    split <;> exact .inr ⟨rfl, rfl⟩
  | init | list | wipe | getInternal => exact .inr ⟨rfl, rfl⟩

/-- The handles that are printed are counted from the next one on. -/
theorem handles_results (shelf : Shelf) {commands : List Command}
    (fit : ∀ command ∈ commands, command.Fits) :
    ∃ count, handles commands (shelf.results commands) =
      (List.range' shelf.next.toNat count).map fun number => line (toString number) := by
  induction commands generalizing shelf with
  | nil => exact ⟨0, rfl⟩
  | cons command rest ih =>
    rw [List.forall_mem_cons] at fit
    obtain ⟨count, later⟩ := ih (shelf.carryOut command).2 fit.2
    have split : handles (command :: rest) (shelf.results (command :: rest)) =
        handles [command] [(shelf.carryOut command).1] ++
          handles rest ((shelf.carryOut command).2.results rest) := by
      simp only [handles, results, List.zip_cons_cons, List.zip_nil_right, List.filterMap_cons]
      split <;> rfl
    rw [split, later]
    rcases shelf.carryOut_counts fit.1 with ⟨left, next, printed⟩ | ⟨next, silent⟩
    · rw [printed, next, Metadata.toNat_add_one left]
      exact ⟨count + 1, rfl⟩
    · rw [silent, next]
      exact ⟨count, rfl⟩

/-- What commands begin and keep is there in the end if one of them has begun it and all later ones
have kept it. -/
theorem holds_iff_exists_begins (holds : List Command → Prop)
    {begins : List Command → Command → Prop} {keeps : Command → Prop} (nothing : ¬ holds [])
    (step : ∀ early last, holds (early ++ [last]) ↔ begins early last ∨ (holds early ∧ keeps last))
    (commands : List Command) :
    holds commands ↔ ∃ early first late, commands = early ++ first :: late ∧ begins early first ∧
      ∀ later ∈ late, keeps later := by
  induction commands using List.reverseRecOn with
  | nil => simp [nothing]
  | append_singleton commands last ih =>
    rw [step, ih]
    constructor
    · rintro (begun | ⟨⟨early, first, late, rfl, begun, kept⟩, keeps⟩)
      · exact ⟨commands, last, [], rfl, begun, by simp⟩
      · refine ⟨early, first, late ++ [last], by simp, begun, ?_⟩
        simpa [or_imp, forall_and] using ⟨kept, keeps⟩
    · rintro ⟨early, first, late, same, begun, kept⟩
      rcases List.eq_nil_or_concat late with rfl | ⟨rest, final, rfl⟩
      · obtain ⟨rfl, ends⟩ := List.append_inj' same rfl
        cases ends
        exact .inl begun
      · rw [List.concat_eq_append, ← List.cons_append, ← List.append_assoc] at same
        obtain ⟨rfl, ends⟩ := List.append_inj' same rfl
        cases ends
        rw [List.concat_eq_append, List.forall_mem_append, List.forall_mem_singleton] at kept
        exact .inr ⟨⟨early, first, rest, rfl, begun, kept.1⟩, kept.2⟩

theorem after_concat (shelf : Shelf) (commands : List Command) (command : Command) :
    shelf.after (commands ++ [command]) = ((shelf.after commands).carryOut command).2 := by
  simp [after]

theorem results_append (shelf : Shelf) (first second : List Command) :
    shelf.results (first ++ second) =
      shelf.results first ++ (shelf.after first).results second := by
  induction first generalizing shelf with
  | nil => rfl
  | cons command rest ih => exact congrArg _ (ih _)

/-- An object is stored under the next handle, or there is a failure, which at most spends the
handle. -/
theorem insert_cases (shelf : Shelf) (isPrivate : Bool) (hex : String) :
    (∃ failure next, shelf.next.toNat ≤ next.toNat ∧
      shelf.insert isPrivate hex = (.failed failure, { shelf with next })) ∨
    (shelf.next ≠ Metadata.lastNumber ∧
      shelf.insert isPrivate hex =
        (.printed (line (Handle.mk shelf.next).message),
          { shelf with
            next := shelf.next + 1
            objects := shelf.objects.insert ⟨shelf.next⟩ ⟨isPrivate, spelling hex⟩ })) := by
  unfold insert
  split
  · exact .inl ⟨_, shelf.next, Nat.le_refl _, rfl⟩
  · split
    · exact .inl ⟨_, shelf.next, Nat.le_refl _, rfl⟩
    · next left =>
      split
      · exact .inr ⟨left, rfl⟩
      · refine .inl ⟨_, shelf.next + 1, ?_, rfl⟩
        rw [Metadata.toNat_add_one left]
        exact Nat.le_succ _

/-- Whether a command stores an object under a handle, and prints the handle. -/
def Stores (shelf : Shelf) (handle : Handle) (item : Item) (command : Command) : Prop :=
  ∃ hex, command = .insert item.isPrivate hex ∧ item.text = spelling hex ∧
    shelf.next = handle.number ∧ (shelf.carryOut command).1 = .printed (line handle.message)

/-- Whether all handles on a shelf have been given out. -/
def GivenOut (shelf : Shelf) : Prop :=
  ∀ handle item, shelf.objects.get? handle = some item → handle.number.toNat < shelf.next.toNat

variable {shelf : Shelf} {handle : Handle} {item : Item}

/-- An insertion adds the object that it stores, if any, and takes none away. -/
theorem get?_objects_insert (givenOut : shelf.GivenOut) {isPrivate : Bool} {hex : String} :
    (shelf.carryOut (.insert isPrivate hex)).2.objects.get? handle = some item ↔
      shelf.Stores handle item (.insert isPrivate hex) ∨
        shelf.objects.get? handle = some item := by
  rcases shelf.touched.insert_cases isPrivate hex with ⟨failure, next, _, fails⟩ | ⟨_, stores⟩
  · simp only [carryOut, fails, Stores]
    simp [touched]
  · simp only [carryOut, stores, Stores]
    by_cases here : handle = ⟨shelf.touched.next⟩
    · subst here
      have unused : shelf.objects.get? ⟨shelf.touched.next⟩ ≠ some item :=
        fun found => Nat.lt_irrefl _ (givenOut _ _ found)
      rw [or_iff_left unused]
      obtain ⟨_, _⟩ := item
      simp [touched, eq_comm]
    · rw [SortedMap.get?_insert_of_ne _ _ here, or_iff_right]
      · rfl
      · rintro ⟨_, _, _, same, _⟩
        exact here (Handle.ext same.symm)

/-- An object is on the shelf if the command stores it, or if it was there and stays. -/
theorem get?_objects_carryOut (givenOut : shelf.GivenOut) (command : Command) :
    (shelf.carryOut command).2.objects.get? handle = some item ↔
      shelf.Stores handle item command ∨
        (shelf.objects.get? handle = some item ∧ command ≠ .wipe ∧ command ≠ .delete handle) := by
  cases command with
  | insert isPrivate hex => simpa using get?_objects_insert givenOut
  | delete other =>
    have absent (same : handle = other) (unknown : shelf.touched.objects.contains other ≠ true) :
        shelf.objects.get? handle = none := by
      subst same
      simpa [SortedMap.contains, touched] using unknown
    simp only [carryOut, delete, Stores]
    split
    · next contained =>
      by_cases same : handle = other
      · subst same
        simp
      · simp [SortedMap.get?_erase_of_ne _ same, Ne.symm same, touched]
    · next unknown =>
      by_cases same : handle = other
      · simp [absent same unknown, touched]
      · simp [Ne.symm same, touched]
  | wipe =>
    have empty : (∅ : SortedMap Handle Item).get? handle = none := rfl
    simp [carryOut, Stores, empty]
  | setInternal number hex =>
    simp only [carryOut, note, Stores]
    split <;> simp [touched]
  | init | list | getInternal => simp [carryOut, Stores, touched]

/-- No command takes the counter back. -/
theorem next_le_carryOut (shelf : Shelf) (command : Command) :
    shelf.next.toNat ≤ (shelf.carryOut command).2.next.toNat := by
  cases command with
  | insert isPrivate hex =>
    rw [carryOut]
    rcases shelf.touched.insert_cases isPrivate hex with ⟨_, _, further, fails⟩ | ⟨left, stores⟩
    · rw [fails]
      exact further
    · rw [stores, Metadata.toNat_add_one left]
      exact Nat.le_succ _
  | setInternal number hex =>
    simp only [carryOut, note]
    split <;> exact Nat.le_refl _
  | delete handle =>
    simp only [carryOut, delete]
    split <;> exact Nat.le_refl _
  | init | list | wipe | getInternal => exact Nat.le_refl _

/-- The number of an object that has been stored has been spent. -/
theorem Stores.lt_next {command : Command} (stores : shelf.Stores handle item command) :
    handle.number.toNat < (shelf.carryOut command).2.next.toNat := by
  obtain ⟨hex, rfl, _, same, printed⟩ := stores
  rw [← same]
  rw [carryOut] at printed ⊢
  rcases shelf.touched.insert_cases item.isPrivate hex with ⟨_, _, _, fails⟩ | ⟨left, stores⟩
  · rw [fails] at printed
    cases printed
  · rw [stores, Metadata.toNat_add_one left]
    exact Nat.lt_succ_self _

/-- No command puts an object on the shelf under a handle that is still to come. -/
theorem GivenOut.carryOut (givenOut : shelf.GivenOut) (command : Command) :
    (shelf.carryOut command).2.GivenOut := by
  intro handle item found
  rcases (get?_objects_carryOut givenOut command).1 found with stores | ⟨found, _⟩
  · exact stores.lt_next
  · exact Nat.lt_of_lt_of_le (givenOut handle item found) (shelf.next_le_carryOut command)

/-- The handles on a shelf have been given out. -/
theorem givenOut_after (commands : List Command) : (after {} commands).GivenOut := by
  induction commands using List.reverseRecOn with
  | nil => exact fun _ _ found => nomatch found
  | append_singleton commands command ih =>
    rw [after_concat]
    exact ih.carryOut command

/-- The objects are those that were stored and since then neither deleted nor wiped. -/
theorem get?_objects_after (commands : List Command) (handle : Handle) (item : Item) :
    (after {} commands).objects.get? handle = some item ↔
      ∃ early first late, commands = early ++ first :: late ∧
        (after {} early).Stores handle item first ∧
          ∀ later ∈ late, later ≠ .wipe ∧ later ≠ .delete handle := by
  refine holds_iff_exists_begins
    (fun commands => (after {} commands).objects.get? handle = some item) nofun
    (fun early last => ?_) commands
  rw [after_concat]
  exact get?_objects_carryOut (givenOut_after early) last

/-- Whether a command stores an internal blob that is printed as a text. -/
def Notes (number : UInt32) (text : String) (command : Command) : Prop :=
  ∃ hex, command = .setInternal number hex ∧ text = spelling hex ∧
    ∃ value, readHex hex = .ok value

/-- An internal blob is on the shelf if the command stores it, or if it was there and is not
replaced. -/
theorem get?_internal_carryOut (shelf : Shelf) (command : Command) {number : UInt32}
    {text : String} :
    (shelf.carryOut command).2.internal.get? number = some text ↔
      Notes number text command ∨
        (shelf.internal.get? number = some text ∧ ∀ other, ¬ Notes number other command) := by
  cases command with
  | setInternal other hex =>
    simp only [carryOut, note]
    cases reads : readHex hex with
    | error failure => simp [Notes, reads, touched]
    | ok value =>
      by_cases same : number = other
      · subst same
        simp [Notes, reads, eq_comm]
      · simp [Notes, SortedMap.get?_insert_of_ne _ _ same, Ne.symm same, touched]
  | insert isPrivate hex =>
    have silent : ∀ text, ¬ Notes number text (.insert isPrivate hex) := by simp [Notes]
    rw [or_iff_right (silent text), and_iff_left silent, carryOut]
    rcases shelf.touched.insert_cases isPrivate hex with ⟨_, _, _, run⟩ | ⟨_, run⟩ <;>
      rw [run, touched]
  | delete handle =>
    simp only [carryOut, delete]
    split <;> simp [Notes, touched]
  | init | list | wipe | getInternal => simp [carryOut, Notes, touched]

/-- The internal blobs are those that were stored last. -/
theorem get?_internal_after (commands : List Command) (number : UInt32) (text : String) :
    (after {} commands).internal.get? number = some text ↔
      ∃ early first late, commands = early ++ first :: late ∧ Notes number text first ∧
        ∀ later ∈ late, ∀ other, ¬ Notes number other later := by
  refine holds_iff_exists_begins
    (fun commands => (after {} commands).internal.get? number = some text) nofun
    (fun early last => ?_) commands
  rw [after_concat]
  exact get?_internal_carryOut _ last

end Shelf

end ObjectVault
