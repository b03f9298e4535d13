import ObjectVault.Proofs.Conduct.Recovery
import ObjectVault.Proofs.Disk

/-!
# The quarantine

The database in use and the quarantine are two entries of the root directory (`Layout.apart`). So
clearing the one leaves the other as it is, and a database that is moved aside arrives with
everything that is below it. `Layout.moveAside_conduct` says that every attempt to move a database
aside goes in one of the ways of `Layout.MovingAside`.
-/

namespace ObjectVault

namespace Path

theorem parts_ne_nil (text : List Char) : parts text ≠ [] := by
  cases text with
  | nil => simp [parts]
  | cons char rest =>
    unfold parts
    split
    · simp
    · split <;> simp

/-- A slash ends one part and begins another. -/
theorem parts_append_slash (front back : List Char) :
    parts (front ++ '/' :: back) = parts front ++ parts back := by
  induction front with
  | nil => simp [parts]
  | cons char rest ih =>
    rw [List.cons_append, parts, parts]
    by_cases slash : char = '/'
    · rw [if_pos slash, if_pos slash, ih, List.cons_append]
    · rw [if_neg slash, if_neg slash, ih]
      cases early : parts rest with
      | nil => exact absurd early (parts_ne_nil rest)
      | cons part others => rfl

theorem parts_of_notMem {text : List Char} (plain : '/' ∉ text) : parts text = [text] := by
  induction text with
  | nil => rfl
  | cons char rest ih =>
    rw [List.mem_cons, not_or] at plain
    rw [parts, if_neg (Ne.symm plain.1), ih plain.2]

/-- A name that is joined to a path is the last name of the longer path. -/
theorem ofText_joinPath (root : String) {name : String} (plain : '/' ∉ name.toList)
    (proper : name.toList ≠ [] ∧ name.toList ≠ ['.'] ∧ name.toList ≠ ['.', '.']) :
    ofText (joinPath root name) = ofText root ++ [name] := by
  have last (path : Path) : [name.toList].foldl follow path = path ++ [name] := by
    simp [follow, proper]
  unfold joinPath
  by_cases blank : root = ""
  · subst blank
    rw [if_pos (.inl rfl), ofText, String.toList_append, String.toList_empty, List.nil_append,
      parts_of_notMem plain, last]
    rfl
  · by_cases ends : root.toList.getLast? = some '/'
    · obtain ⟨front, rootIs⟩ := List.getLast?_eq_some_iff.1 ends
      rw [if_pos (.inr ends), ofText, ofText, String.toList_append, rootIs, List.append_assoc,
        List.singleton_append, parts_append_slash, parts_append_slash, parts_of_notMem plain,
        List.foldl_append, List.foldl_append, last]
      rfl
    · rw [if_neg (by simp [blank, ends]), ofText, ofText, String.toList_append,
        String.toList_append, List.append_assoc]
      change (parts (root.toList ++ '/' :: name.toList)).foldl follow [] = _
      rw [parts_append_slash, parts_of_notMem plain, List.foldl_append, last]

end Path

namespace Layout

variable (layout : Layout)

/-- Where the database in use is. -/
def databasePath : Path := .ofText layout.database

/-- Where the quarantine is. -/
def quarantinePath : Path := .ofText layout.quarantine

/-- The database is just below the root. -/
theorem databasePath_eq : layout.databasePath = .ofText layout.root ++ ["database"] :=
  Path.ofText_joinPath _ (by decide) (by decide)

/-- The quarantine is beside it. -/
theorem quarantinePath_eq : layout.quarantinePath = .ofText layout.root ++ ["database_corrupt"] :=
  Path.ofText_joinPath _ (by decide) (by decide)

/-- The database in use and the quarantine are side by side. -/
theorem apart : Disk.Apart layout.databasePath layout.quarantinePath := by
  rw [databasePath_eq, quarantinePath_eq]
  constructor <;> rw [List.prefix_append_right_inj] <;> decide

/-- What keeps a database from being moved aside: a file in the place of the quarantine, or the
operating system. -/
inductive Hindered (disk : Disk) : Prop where
  | occupied {number} (file : disk.find layout.quarantinePath = .ok (.file number))
  | unremoved {refusal}
      (refuses : disk.refusal? (.removeDirectory layout.quarantinePath) = some refusal)
  | unmoved {refusal}
      (refuses : disk.refusal? (.move layout.databasePath layout.quarantinePath) = some refusal)

/-- Whether the quarantine is emptied for a database that is not moved there. -/
structure Drops (disk : Disk) : Prop where
  occupied : disk.find layout.quarantinePath = .ok .directory
  removed : disk.refusal? (.removeDirectory layout.quarantinePath) = none
  /-- There is no database, or the operating system refuses to move it. -/
  unmoved : (∀ node, disk.find layout.databasePath ≠ .ok node) ∨
    ∃ refusal, disk.refusal? (.move layout.databasePath layout.quarantinePath) = some refusal

/-- Whether something in quarantine is removed before the operating system refuses to go on. -/
def Tears (disk : Disk) : Prop :=
  ∃ refusal, disk.refusal? (.removeDirectory layout.quarantinePath) = some refusal ∧
    refusal.gone ≠ []

/-- How the database in use is moved aside. -/
inductive MovingAside (disk : Disk) : Except FileError Unit → Disk → Prop where
  | unchanged {error} (unoccupied : disk.find layout.quarantinePath ≠ .ok .directory)
      (cause : layout.Hindered disk ∨ ∀ node, disk.find layout.databasePath ≠ .ok node) :
      MovingAside disk (.error error) disk
  /-- The quarantine cannot be removed, and some of it may be gone. -/
  | torn {refusal}
      (refuses : disk.refusal? (.removeDirectory layout.quarantinePath) = some refusal) :
      MovingAside disk (.error refusal.error)
        (disk.withoutAll layout.quarantinePath refusal.gone)
  /-- The database is not moved, but what was in quarantine is gone. -/
  | dropped {error} (drops : layout.Drops disk) :
      MovingAside disk (.error error) (disk.without layout.quarantinePath)
  | moved {node after} (free : ¬ layout.Hindered disk)
      (found : disk.find layout.databasePath = .ok node)
      (relocates : Disk.Relocates layout.databasePath layout.quarantinePath disk after)
      (proper : after.Proper) : MovingAside disk (.ok ()) after

section MovingAside

variable {layout} {disk : Disk}

/-- A database is moved to where there is nothing, unless that is refused. -/
theorem move_database (proper : disk.Proper)
    (permitted : disk.refusal? (.move layout.databasePath layout.quarantinePath) = none)
    (inside : disk.find (.ofText layout.root) = .ok .directory)
    (vacant : disk.nodes.get? layout.quarantinePath = none) {node : Node}
    (found : disk.find layout.databasePath = .ok node) :
    ∃ moved, disk.move layout.databasePath layout.quarantinePath = .ok moved ∧
      Disk.Relocates layout.databasePath layout.quarantinePath disk moved ∧ moved.Proper := by
  have free := proper.free_of_vacant layout.apart.symm.source_ne_nil vacant
  have relocates := Disk.relocates_of_vacant layout.apart free
  have stillProper := relocates.proper layout.apart proper fun below => by
    rw [quarantinePath_eq, Path.parent, List.dropLast_concat] at below ⊢
    exact (proper.find_eq_ok_iff below).1 inside
  rw [databasePath_eq] at found
  rw [quarantinePath_eq] at vacant
  rw [databasePath_eq, quarantinePath_eq] at permitted
  refine ⟨_, ?_, relocates, stillProper⟩
  rw [databasePath_eq, quarantinePath_eq]
  exact Disk.move_of_vacant (by decide) permitted inside found vacant

/-- Where the quarantine has no node, a move of the database works or changes nothing. -/
theorem move_cases (proper : disk.Proper) (vacant : disk.nodes.get? layout.quarantinePath = none) :
    (∃ error, disk.move layout.databasePath layout.quarantinePath = .error error ∧
      ((∀ node, disk.find layout.databasePath ≠ .ok node) ∨
        ∃ refusal,
          disk.refusal? (.move layout.databasePath layout.quarantinePath) = some refusal)) ∨
    ∃ node moved, disk.move layout.databasePath layout.quarantinePath = .ok moved ∧
      disk.refusal? (.move layout.databasePath layout.quarantinePath) = none ∧
      disk.find layout.databasePath = .ok node ∧
      Disk.Relocates layout.databasePath layout.quarantinePath disk moved ∧ moved.Proper := by
  cases refused : disk.refusal? (.move layout.databasePath layout.quarantinePath) with
  | some refusal => exact .inl ⟨_, Disk.move_of_refusal refused, .inr ⟨refusal, rfl⟩⟩
  | none =>
    by_cases there : ∃ node, disk.find layout.databasePath = .ok node
    · obtain ⟨node, found⟩ := there
      have inside : disk.find (.ofText layout.root) = .ok .directory := by
        rw [databasePath_eq] at found
        exact Disk.find_of_find_append found
      obtain ⟨moved, moves, relocates, stillProper⟩ :=
        move_database proper refused inside vacant found
      exact .inr ⟨node, moved, moves, rfl, found, relocates, stillProper⟩
    · have absent (node : Node) : disk.find layout.databasePath ≠ .ok node :=
        fun found => there ⟨node, found⟩
      cases works : disk.move layout.databasePath layout.quarantinePath with
      | error error => exact .inl ⟨error, rfl, .inl absent⟩
      | ok moved => exact absurd (Disk.find_of_move works).2 there

/-- The database in use is moved aside in one of the ways of `MovingAside`. -/
theorem moveAside_conduct (proper : disk.Proper) :
    layout.MovingAside disk (layout.moveAside disk).1 (layout.moveAside disk).2 := by
  unfold moveAside Disk.removeDirectory
  rw [← quarantinePath, ← databasePath]
  cases removal : disk.refusal? (.removeDirectory layout.quarantinePath) with
  | some refusal => exact .torn removal
  | none =>
    cases occupied : disk.find layout.quarantinePath with
    | error error =>
      have vacant : disk.nodes.get? layout.quarantinePath = none := by
        rw [Option.eq_none_iff_forall_ne_some]
        intro node found
        rw [(proper.find_eq_ok_iff layout.apart.symm.source_ne_nil).2 found] at occupied
        cases occupied
      have unoccupied : disk.find layout.quarantinePath ≠ .ok .directory := by simp [occupied]
      cases error with
      | notFound =>
        rcases move_cases proper vacant with ⟨error, fails, cause⟩ |
          ⟨node, moved, moves, permitted, found, relocates, stillProper⟩
        · simp only [fails]
          refine .unchanged unoccupied (cause.symm.imp_left ?_)
          rintro ⟨refusal, refuses⟩
          exact .unmoved refuses
        · simp only [moves]
          refine .moved ?_ found relocates stillProper
          rintro (file | refuses | refuses)
          · cases occupied.symm.trans file
          · cases removal.symm.trans refuses
          · cases permitted.symm.trans refuses
      | _ =>
        -- The path to the quarantine ends early, and so does that to the database beside it.
        refine .unchanged unoccupied (.inr fun node found => ?_)
        rw [databasePath_eq] at found
        rw [quarantinePath_eq] at vacant occupied
        cases occupied.symm.trans (Disk.find_of_vacant (Disk.find_of_find_append found) vacant)
    | ok node =>
      cases node with
      | file number => exact .unchanged (by simp [occupied]) (.inl (.occupied occupied))
      | directory =>
        have vacant : (disk.without layout.quarantinePath).nodes.get? layout.quarantinePath =
            none := by
          rw [Disk.get?_without, if_pos List.prefix_rfl]
        have same (node : Node) : (disk.without layout.quarantinePath).find layout.databasePath =
            .ok node ↔ disk.find layout.databasePath = .ok node :=
          proper.find_without layout.apart.notAbove
        rcases move_cases (proper.without layout.quarantinePath) vacant with
          ⟨error, fails, cause⟩ | ⟨node, moved, moves, permitted, found, relocates, stillProper⟩
        · simp only [fails]
          refine .dropped ⟨occupied, removal, cause.imp_left fun absent node found => ?_⟩
          exact absent node ((same node).2 found)
        · simp only [moves]
          refine .moved ?_ ((same node).1 found) (relocates.of_without layout.apart) stillProper
          rintro (file | refuses | refuses)
          · cases occupied.symm.trans file
          · cases removal.symm.trans refuses
          · cases permitted.symm.trans refuses

/-- A database is moved aside exactly if it is there and nothing hinders it. -/
theorem moveAside_eq_ok_iff (proper : disk.Proper) :
    (layout.moveAside disk).1 = .ok () ↔
      (∃ node, disk.find layout.databasePath = .ok node) ∧ ¬ layout.Hindered disk := by
  have moving := layout.moveAside_conduct proper
  generalize (layout.moveAside disk).1 = result, (layout.moveAside disk).2 = after at moving ⊢
  cases moving with
  | unchanged _ cause =>
    refine ⟨nofun, fun ⟨⟨node, found⟩, free⟩ => ?_⟩
    rcases cause with hindered | absent
    · exact absurd hindered free
    · exact absurd found (absent node)
  | torn refuses => exact ⟨nofun, fun ⟨_, free⟩ => absurd (.unremoved refuses) free⟩
  | dropped drops =>
    refine ⟨nofun, fun ⟨⟨node, found⟩, free⟩ => ?_⟩
    rcases drops.unmoved with absent | ⟨refusal, refuses⟩
    · exact absurd found (absent node)
    · exact absurd (.unmoved refuses) free
  | moved free found => exact ⟨fun _ => ⟨⟨_, found⟩, free⟩, fun _ => rfl⟩

/-- The quarantine is lost for nothing if it is removed for a database that is not moved. -/
theorem Drops.moveAside (drops : layout.Drops disk) (proper : disk.Proper) :
    ∃ error, layout.moveAside disk = (.error error, disk.without layout.quarantinePath) := by
  have moving := layout.moveAside_conduct proper
  generalize layout.moveAside disk = outcome at moving ⊢
  obtain ⟨result, after⟩ := outcome
  obtain ⟨occupied, removed, unmoved⟩ := drops
  cases moving with
  | unchanged unoccupied => exact absurd occupied unoccupied
  | torn refuses => cases removed.symm.trans refuses
  | dropped => exact ⟨_, rfl⟩
  | moved free found =>
    rcases unmoved with absent | ⟨refusal, refuses⟩
    · exact absurd found (absent _)
    · exact absurd (.unmoved refuses) free

/-- A disk is proper after a database has been moved aside, or that has been tried. -/
theorem proper_moveAside (proper : disk.Proper) : (layout.moveAside disk).2.Proper := by
  have moving := layout.moveAside_conduct proper
  generalize (layout.moveAside disk).1 = result, (layout.moveAside disk).2 = after at moving
  cases moving with
  | unchanged => exact proper
  | torn => exact proper.withoutAll _ _
  | dropped => exact proper.without _
  | moved _ _ _ stillProper => exact stillProper

/-- A database that is moved aside takes the place of what was in quarantine. -/
theorem relocates_moveAside (proper : disk.Proper) (moves : (layout.moveAside disk).1 = .ok ()) :
    Disk.Relocates layout.databasePath layout.quarantinePath disk (layout.moveAside disk).2 := by
  have moving := layout.moveAside_conduct proper
  rw [moves] at moving
  cases moving with
  | moved _ _ relocates => exact relocates

/-- A database that is moved aside is carried to the quarantine. -/
theorem carries_moveAside_of_ok {β : Type} {view : FileContent → β} (proper : disk.Proper)
    (moves : (layout.moveAside disk).1 = .ok ()) :
    Disk.Carries view layout.databasePath layout.quarantinePath disk (layout.moveAside disk).2 :=
  (relocates_moveAside proper moves).carries layout.apart proper (proper_moveAside proper)

/-- If a database is not moved aside, whatever is not in quarantine is as it was. -/
theorem outside_moveAside (proper : disk.Proper) {error : FileError}
    (fails : (layout.moveAside disk).1 = .error error) :
    (layout.moveAside disk).2.files = disk.files ∧ ∀ path, ¬ layout.quarantinePath <+: path →
      (layout.moveAside disk).2.nodes.get? path = disk.nodes.get? path := by
  have moving := layout.moveAside_conduct proper
  rw [fails] at moving
  generalize (layout.moveAside disk).2 = after at moving
  cases moving with
  | unchanged => exact ⟨rfl, fun _ _ => rfl⟩
  | torn =>
    exact ⟨Disk.files_withoutAll _ _ _, fun _ outside => Disk.get?_withoutAll_of_outside outside⟩
  | dropped =>
    refine ⟨rfl, fun path outside => ?_⟩
    rw [Disk.get?_without, if_neg outside]

/-- If a database is not moved aside, the disk is as it was, or the quarantine has been removed for
nothing, as a whole or in part. -/
theorem inside_moveAside (proper : disk.Proper) {error : FileError}
    (fails : (layout.moveAside disk).1 = .error error) :
    (layout.moveAside disk).2 = disk ∨
      layout.Drops disk ∧ (layout.moveAside disk).2 = disk.without layout.quarantinePath ∨
      layout.Tears disk := by
  have moving := layout.moveAside_conduct proper
  rw [fails] at moving
  generalize (layout.moveAside disk).2 = after at moving ⊢
  cases moving with
  | unchanged => exact .inl rfl
  | @torn refusal refuses =>
    by_cases whole : refusal.gone = []
    · rw [whole]
      exact .inl rfl
    · exact .inr (.inr ⟨refusal, refuses, whole⟩)
  | dropped drops => exact .inr (.inl ⟨drops, rfl⟩)

/-- If a database is not moved aside, it is still in its place. -/
theorem carries_moveAside_of_error {β : Type} {view : FileContent → β} (proper : disk.Proper)
    {error : FileError} (fails : (layout.moveAside disk).1 = .error error) :
    Disk.Carries view layout.databasePath layout.databasePath disk (layout.moveAside disk).2 := by
  obtain ⟨files, outside⟩ := outside_moveAside proper fails
  constructor
  · intro names node found
    have below : layout.databasePath ++ names ≠ [] := by simp [layout.apart.source_ne_nil]
    rw [proper.find_eq_ok_iff below] at found
    rw [(proper_moveAside proper).find_eq_ok_iff below,
      outside _ (layout.apart.symm.not_prefix_append names), found]
  · intro names number found
    rw [Disk.content, Disk.content, files]

end MovingAside

end Layout

end ObjectVault
