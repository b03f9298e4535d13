import ObjectVault.Disk
import ObjectVault.Proofs.SortedMap

/-!
# Trees on disks

A disk is proper if its nodes make a tree and its files have numbers of their own. On a proper disk
what is found at a path is the node under it (`Proper.find_eq_ok_iff`). `Disk.Carries` says that a
tree is found again at a path, every file of it with its number and with what it holds, as far as a
view of the contents tells, and `Disk.Later` that everything on a disk is still there. Every
operation keeps a disk proper, and each that takes nothing away leaves a later disk.
-/

namespace ObjectVault

/-- The number of a file. -/
def Node.number? : Node → Option Nat
  | .directory => none
  | .file number => some number

namespace Disk

variable {disk : Disk} {path here : Path} {names : List String} {node : Node}

@[simp] theorem find_nil (disk : Disk) : disk.find [] = .ok .directory := rfl

/-- Whether the nodes of a disk make a tree, and its files have numbers of their own. -/
structure Proper (disk : Disk) : Prop where
  /-- What is not at the top is in a directory. -/
  parents : ∀ {path name node}, path ≠ [] → disk.nodes.get? (path ++ [name]) = some node →
    disk.nodes.get? path = some .directory
  /-- Every file has a number less than that of the next. -/
  numbers : ∀ {path number}, disk.nodes.get? path = some (.file number) → number < disk.nextFile

/-- A disk is proper if each of its nodes is in its place. -/
theorem proper_iff : disk.Proper ↔ ∀ entry ∈ disk.nodes.entries,
    (entry.1.parent = [] ∨ disk.nodes.get? entry.1.parent = some .directory) ∧
      entry.2.number?.all (· < disk.nextFile) = true := by
  constructor
  · rintro proper ⟨path, node⟩ member
    have found := SortedMap.get?_eq_some_iff.2 member
    constructor
    · by_cases below : path.parent = []
      · exact .inl below
      · have nonempty : path ≠ [] := by
          rintro rfl
          exact below rfl
        rw [← List.dropLast_concat_getLast nonempty] at found
        exact .inr (proper.parents below found)
    · cases node with
      | directory => rfl
      | file number => simpa [Node.number?] using proper.numbers found
  · intro placed
    constructor
    · intro path name node below found
      have inside := (placed _ (SortedMap.get?_eq_some_iff.1 found)).1
      rw [Path.parent, List.dropLast_concat] at inside
      exact inside.resolve_left below
    · intro path number found
      simpa [Node.number?] using (placed _ (SortedMap.get?_eq_some_iff.1 found)).2

instance : Decidable disk.Proper := decidable_of_iff _ proper_iff.symm

/-- What is above something is a directory. -/
theorem Proper.above (proper : disk.Proper) (below : path ≠ []) (inside : names ≠ [])
    (found : disk.nodes.get? (path ++ names) = some node) :
    disk.nodes.get? path = some .directory := by
  induction names generalizing path with
  | nil => exact absurd rfl inside
  | cons name rest ih =>
    by_cases last : rest = []
    · subst last
      exact proper.parents below found
    · rw [List.append_cons] at found
      exact proper.parents below (ih (by simp) last found)

/-- A walk that gets somewhere ends at a node. -/
theorem get?_of_walk {start : Node} (below : names ≠ [])
    (walked : disk.walk here start names = .ok node) :
    disk.nodes.get? (here ++ names) = some node := by
  induction names generalizing here start with
  | nil => exact absurd rfl below
  | cons name rest ih =>
    cases start with
    | file number => cases walked
    | directory =>
      simp only [walk] at walked
      split at walked
      · next next found =>
        by_cases last : rest = []
        · subst last
          cases walked
          exact found
        · rw [List.append_cons]
          exact ih last walked
      · cases walked

/-- On a proper disk a walk gets to every node. -/
theorem Proper.walk_of_get? (proper : disk.Proper) (below : names ≠ [])
    (found : disk.nodes.get? (here ++ names) = some node) :
    disk.walk here .directory names = .ok node := by
  induction names generalizing here with
  | nil => exact absurd rfl below
  | cons name rest ih =>
    by_cases last : rest = []
    · subst last
      simp only [walk, found]
    · rw [List.append_cons] at found
      simp only [walk, proper.above (by simp) last found]
      exact ih last found

/-- What is found at a path is the node under it. -/
theorem Proper.find_eq_ok_iff (proper : disk.Proper) (below : path ≠ []) :
    disk.find path = .ok node ↔ disk.nodes.get? path = some node := by
  have walked : disk.walk [] .directory path = .ok node ↔
      disk.nodes.get? ([] ++ path) = some node :=
    ⟨get?_of_walk below, proper.walk_of_get? below⟩
  exact walked

/-- A walk goes on where an earlier one has ended. -/
theorem walk_append (start : Node) (more : List String) :
    disk.walk here start (names ++ more) =
      match disk.walk here start names with
      | .ok node => disk.walk (here ++ names) node more
      | .error error => .error error := by
  induction names generalizing here start with
  | nil => simp [walk]
  | cons name rest ih =>
    cases start with
    | file number => rfl
    | directory =>
      rw [List.cons_append, walk, walk]
      cases disk.nodes.get? (here ++ [name]) with
      | none => rfl
      | some node => simp only [ih, List.append_assoc, List.singleton_append]

/-- What is found in something is found in a directory. -/
theorem find_of_find_append {name : String} (found : disk.find (path ++ [name]) = .ok node) :
    disk.find path = .ok .directory := by
  unfold find at found ⊢
  rw [walk_append] at found
  split at found
  · next above walked =>
    cases above with
    | directory => exact walked
    | file number => cases found
  · cases found

/-- What is above something that is found is found. -/
theorem exists_find_of_find_append (found : disk.find (path ++ names) = .ok node) :
    ∃ above, disk.find path = .ok above := by
  unfold find at found ⊢
  rw [walk_append] at found
  split at found
  · next above walked => exact ⟨above, walked⟩
  · cases found

/-- Where there is no node in a directory nothing is found. -/
theorem find_of_vacant {name : String} (inside : disk.find path = .ok .directory)
    (vacant : disk.nodes.get? (path ++ [name]) = none) :
    disk.find (path ++ [name]) = .error .notFound := by
  unfold find at inside ⊢
  rw [walk_append, inside]
  simp [walk, vacant]

/-- There is nothing below a path under which there is nothing. -/
theorem Proper.free_of_vacant (proper : disk.Proper) (below : path ≠ [])
    (vacant : disk.nodes.get? path = none) (names : List String) :
    disk.nodes.get? (path ++ names) = none := by
  rw [Option.eq_none_iff_forall_ne_some]
  intro node found
  by_cases last : names = []
  · rw [last, List.append_nil, vacant] at found
    cases found
  · rw [proper.above below last found] at vacant
    cases vacant

/-- Where a node can be put there is a directory. -/
theorem requireDirectory_eq_ok_iff :
    disk.requireDirectory path = .ok () ↔ disk.find path = .ok .directory := by
  unfold requireDirectory
  split <;> simp_all

/-- Whether a tree at one path is found at another path, with the same files. What they hold is
the same as far as the view tells. -/
structure Carries {β : Type} (view : FileContent → β) (source target : Path)
    (before after : Disk) : Prop where
  node : ∀ {names node}, before.find (source ++ names) = .ok node →
    after.find (target ++ names) = .ok node
  content : ∀ {names number}, before.find (source ++ names) = .ok (.file number) →
    view (after.content number) = view (before.content number)

/-- Whether a disk is proper and has everything that another one has. -/
structure Later {β : Type} (view : FileContent → β) (before after : Disk) : Prop where
  proper : after.Proper
  kept : Carries view [] [] before after

section Later

variable {β : Type} {view : FileContent → β} {before middle after : Disk}
  {source between target : Path}

/-- What is carried twice is carried all the way. -/
theorem Carries.trans (early : Carries view source between before middle)
    (late : Carries view between target middle after) :
    Carries view source target before after where
  node found := late.node (early.node found)
  content found := (late.content (early.node found)).trans (early.content found)

/-- Where there is no tree there is none to be found again. -/
theorem Carries.of_absent (absent : ∀ node, before.find source ≠ .ok node) :
    Carries view source target before after := by
  have nothing {names : List String} {node : Node}
      (found : before.find (source ++ names) = .ok node) : False := by
    obtain ⟨above, found⟩ := exists_find_of_find_append found
    exact absent above found
  exact ⟨fun found => (nothing found).elim, fun found => (nothing found).elim⟩

theorem Later.refl (proper : disk.Proper) : Later view disk disk where
  proper := proper
  kept := ⟨id, fun _ => rfl⟩

/-- What takes nothing away twice takes nothing away. -/
theorem Later.trans (early : Later view before middle) (late : Later view middle after) :
    Later view before after where
  proper := late.proper
  kept := early.kept.trans late.kept

/-- What is at a path is there later. -/
theorem Later.carries (later : Later view before after) (path : Path) :
    Carries view path path before after where
  node found := later.kept.node found
  content found := later.kept.content (by rwa [List.nil_append])

/-- Changes that take no node away and leave the files alone leave a later disk. -/
theorem Later.of_get? (proper : before.Proper) (alsoProper : after.Proper)
    (nodes : ∀ {path node}, before.nodes.get? path = some node →
      after.nodes.get? path = some node)
    (contents : ∀ {path number}, before.nodes.get? path = some (.file number) →
      view (after.content number) = view (before.content number)) :
    Later view before after where
  proper := alsoProper
  kept := by
    constructor
    · intro names node found
      by_cases root : names = []
      · subst root
        exact found
      · rw [List.nil_append, proper.find_eq_ok_iff root] at found
        rw [List.nil_append, alsoProper.find_eq_ok_iff root]
        exact nodes found
    · intro names number found
      by_cases root : names = []
      · subst root
        cases found
      · rw [List.nil_append, proper.find_eq_ok_iff root] at found
        exact contents found

/-- The files that are held open do not matter. -/
theorem later_locked (proper : disk.Proper) (locked : List Nat) :
    Later view disk { disk with locked } :=
  .of_get? proper ⟨proper.parents, proper.numbers⟩ id fun _ => rfl

/-- A file may be written that looks the same afterwards. -/
theorem later_setContent (proper : disk.Proper) {number : Nat} {content : FileContent}
    (same : view content = view (disk.content number)) :
    Later view disk (disk.setContent number content) := by
  refine .of_get? proper ⟨proper.parents, proper.numbers⟩ id fun {path other} _ => ?_
  by_cases here : other = number
  · subst here
    simpa [Disk.content, setContent] using same
  · simp [Disk.content, setContent, SortedMap.get?_insert_of_ne _ _ here]

/-- A node may be put where there is none, in a directory. -/
theorem later_insert (proper : disk.Proper) {name : String} {added : Disk}
    (free : disk.nodes.get? (path ++ [name]) = none)
    (inside : path ≠ [] → disk.nodes.get? path = some .directory)
    (nodes : added.nodes = disk.nodes.insert (path ++ [name]) node)
    (grows : disk.nextFile ≤ added.nextFile)
    (number : ∀ number, node = .file number → number < added.nextFile)
    (contents : ∀ number, number < disk.nextFile → added.content number = disk.content number) :
    Later view disk added := by
  have kept {other : Path} {found : Node} (stored : disk.nodes.get? other = some found) :
      added.nodes.get? other = some found := by
    have differs : other ≠ path ++ [name] := by
      rintro rfl
      rw [free] at stored
      cases stored
    rw [nodes, SortedMap.get?_insert_of_ne _ _ differs, stored]
  refine .of_get? proper ⟨?_, ?_⟩ kept fun {path number} stored => ?_
  · intro other last found below stored
    rw [nodes] at stored
    rcases SortedMap.of_get?_insert stored with ⟨same, _⟩ | ⟨_, stored⟩
    · obtain ⟨rfl, _⟩ := List.append_inj' same rfl
      exact kept (inside below)
    · exact kept (proper.parents below stored)
  · intro other found stored
    rw [nodes] at stored
    rcases SortedMap.of_get?_insert stored with ⟨_, same⟩ | ⟨_, stored⟩
    · exact number _ same.symm
    · exact Nat.lt_of_lt_of_le (proper.numbers stored) grows
  · rw [contents number (proper.numbers stored)]

/-- Directories may be created. -/
theorem later_createBelow (proper : disk.Proper) {created : Disk}
    (inside : here ≠ [] → disk.nodes.get? here = some .directory)
    (works : disk.createBelow here names = .ok created) : Later view disk created := by
  induction names generalizing disk here with
  | nil =>
    cases works
    exact .refl proper
  | cons name rest ih =>
    rw [createBelow] at works
    split at works
    · next found => exact ih proper (fun _ => found) works
    · cases works
    · next free =>
      have step : Later view disk
          { disk with nodes := disk.nodes.insert (here ++ [name]) .directory } :=
        later_insert proper free inside rfl (Nat.le_refl _) (by simp) fun _ _ => rfl
      exact step.trans (ih step.proper (fun _ => SortedMap.get?_insert_self _ _ _) works)

/-- No file is there that was not there before directories were created. -/
theorem get?_of_createBelow {created : Disk} {number : Nat}
    (works : disk.createBelow here names = .ok created)
    (found : created.nodes.get? path = some (.file number)) :
    disk.nodes.get? path = some (.file number) := by
  induction names generalizing disk here with
  | nil =>
    cases works
    exact found
  | cons name rest ih =>
    rw [createBelow] at works
    split at works
    · exact ih works
    · cases works
    · rcases SortedMap.of_get?_insert (ih works) with ⟨_, same⟩ | ⟨_, stored⟩
      · cases same
      · exact stored

/-- A new file may be put where there is nothing. -/
theorem later_createFile (proper : disk.Proper) {content : FileContent} {number : Nat}
    {created : Disk} (free : disk.find path = .error .notFound)
    (works : disk.createFile path content = .ok (number, created)) : Later view disk created := by
  have below : path ≠ [] := by
    rintro rfl
    cases free
  obtain ⟨above, name, rfl⟩ : ∃ above name, path = above ++ [name] :=
    ⟨_, _, (List.dropLast_concat_getLast below).symm⟩
  have vacant : disk.nodes.get? (above ++ [name]) = none := by
    cases found : disk.nodes.get? (above ++ [name]) with
    | none => rfl
    | some node =>
      rw [(proper.find_eq_ok_iff (by simp)).2 found] at free
      cases free
  simp only [createFile] at works
  split at works
  · cases works
  · next isDirectory =>
    cases works
    rw [requireDirectory_eq_ok_iff, Path.parent, List.dropLast_concat] at isDirectory
    refine later_insert proper vacant (fun below => (proper.find_eq_ok_iff below).1 isDirectory)
      rfl (Nat.le_succ _) (by rintro _ ⟨⟩; exact Nat.lt_succ_self _) fun other low => ?_
    rw [Disk.content, SortedMap.get?_insert_of_ne _ _ (Nat.ne_of_lt low)]
    rfl

end Later

theorem get?_without {other : Path} :
    (disk.without path).nodes.get? other =
      if path <+: other then none else disk.nodes.get? other := by
  rw [without, SortedMap.get?_filter]
  by_cases inside : path <+: other
  · simp [inside]
  · have outside : path.isPrefixOf other = false := by
      rwa [← Bool.not_eq_true, List.isPrefixOf_iff_prefix]
    cases found : disk.nodes.get? other <;> simp [inside, outside]

/-- A disk stays proper when a tree is removed. -/
theorem Proper.without (proper : disk.Proper) (path : Path) : (disk.without path).Proper where
  parents := by
    intro other name node below found
    rw [get?_without] at found ⊢
    split at found
    · cases found
    · next outside =>
      have alsoOutside : ¬ path <+: other := fun inside =>
        outside (inside.trans (List.prefix_append _ _))
      rw [if_neg alsoOutside]
      exact proper.parents below found
  numbers := by
    intro other number found
    rw [get?_without] at found
    split at found
    · cases found
    · exact proper.numbers found

/-- What is not in a tree that is removed is found as before. -/
theorem Proper.find_without (proper : disk.Proper) {other : Path} (outside : ¬ path <+: other) :
    (disk.without path).find other = .ok node ↔ disk.find other = .ok node := by
  by_cases root : other = []
  · subst root
    rfl
  · rw [(proper.without path).find_eq_ok_iff root, proper.find_eq_ok_iff root, get?_without,
      if_neg outside]

section WithoutAll

variable {gone : List Path}

/-- Some trees below a path are gone, and everything else is there. -/
theorem get?_withoutAll {other : Path} :
    (disk.withoutAll path gone).nodes.get? other =
      if ∃ names ∈ gone, path ++ names <+: other then none else disk.nodes.get? other := by
  induction gone generalizing disk with
  | nil => simp [withoutAll]
  | cons names rest ih =>
    rw [withoutAll, List.foldl_cons, ← withoutAll, ih, get?_without]
    by_cases later : ∃ names ∈ rest, path ++ names <+: other
    · simp [later]
    · by_cases here : path ++ names <+: other <;> simp [later, here]

/-- A disk stays proper when some trees are removed. -/
theorem Proper.withoutAll (proper : disk.Proper) (path : Path) (gone : List Path) :
    (disk.withoutAll path gone).Proper := by
  induction gone generalizing disk with
  | nil => exact proper
  | cons names rest ih => exact ih (proper.without _)

/-- The files hold what they held when some trees are removed. -/
theorem files_withoutAll (disk : Disk) (path : Path) (gone : List Path) :
    (disk.withoutAll path gone).files = disk.files := by
  induction gone generalizing disk with
  | nil => rfl
  | cons names rest ih => exact ih _

/-- What is not below the path is there still. -/
theorem get?_withoutAll_of_outside {other : Path} (outside : ¬ path <+: other) :
    (disk.withoutAll path gone).nodes.get? other = disk.nodes.get? other := by
  rw [get?_withoutAll, if_neg]
  rintro ⟨names, _, inside⟩
  exact outside ((List.prefix_append path names).trans inside)

end WithoutAll

/-- The nodes once a tree has been moved. -/
def relocated (source target : Path) (nodes : SortedMap Path Node) : SortedMap Path Node :=
  .ofList (nodes.entries.map fun entry => (movedPath source target entry.1, entry.2))

/-- What is in a directory does not lead to it. -/
theorem not_append_prefix_self (path : Path) (name : String) : ¬ path ++ [name] <+: path := by
  intro leads
  have shorter := leads.length_le
  simp only [List.length_append, List.length_singleton] at shorter
  omega

/-- Whether neither of two paths leads through the other. -/
structure Apart (source target : Path) : Prop where
  notBelow : ¬ source <+: target
  notAbove : ¬ target <+: source

theorem Apart.symm {source target : Path} (apart : Apart source target) : Apart target source :=
  ⟨apart.notAbove, apart.notBelow⟩

/-- What is below the one path is not below the other. -/
theorem Apart.not_prefix_append {source target : Path} (apart : Apart source target)
    (names : List String) : ¬ source <+: target ++ names := by
  intro leads
  rcases List.prefix_or_prefix_of_prefix leads (List.prefix_append target names) with below | above
  · exact apart.notBelow below
  · exact apart.notAbove above

/-- Of two paths that are apart neither is the top. -/
theorem Apart.source_ne_nil {source target : Path} (apart : Apart source target) :
    source ≠ [] := by
  rintro rfl
  exact apart.notBelow List.nil_prefix

/-- Whether a tree has been moved to a path, in place of what was there. -/
structure Relocates (source target : Path) (before after : Disk) : Prop where
  arrived : ∀ names, after.nodes.get? (target ++ names) = before.nodes.get? (source ++ names)
  left : ∀ names, after.nodes.get? (source ++ names) = none
  elsewhere : ∀ {path}, ¬ source <+: path → ¬ target <+: path →
    after.nodes.get? path = before.nodes.get? path
  files : after.files = before.files
  next : after.nextFile = before.nextFile

section Relocates

variable {nodes : SortedMap Path Node} {source target other : Path} {before after : Disk}

theorem movedPath_append (source target names : Path) :
    movedPath source target (source ++ names) = target ++ names := by
  simp [movedPath]

theorem movedPath_of_outside (outside : ¬ source <+: other) :
    movedPath source target other = other := by
  simp [movedPath, outside]

/-- A tree that is moved to where there is nothing covers nothing up. -/
theorem get?_relocated (free : ∀ names, nodes.get? (target ++ names) = none) :
    (relocated source target nodes).get? other = some node ↔
      ∃ original, nodes.get? original = some node ∧ movedPath source target original = other := by
  refine SortedMap.get?_ofList_map fun {first second value another} found alsoFound same => ?_
  have outside {path : Path} {stored : Node} (found : nodes.get? path = some stored) :
      ¬ target <+: path := by
    rintro ⟨names, rfl⟩
    rw [free] at found
    cases found
  by_cases inside : source <+: first <;> by_cases alsoInside : source <+: second
  · obtain ⟨names, rfl⟩ := inside
    obtain ⟨more, rfl⟩ := alsoInside
    rw [movedPath_append, movedPath_append, List.append_cancel_left_eq] at same
    rw [same]
  · obtain ⟨names, rfl⟩ := inside
    rw [movedPath_append, movedPath_of_outside alsoInside] at same
    exact absurd ⟨names, same⟩ (outside alsoFound)
  · obtain ⟨more, rfl⟩ := alsoInside
    rw [movedPath_append, movedPath_of_outside inside] at same
    exact absurd ⟨more, same.symm⟩ (outside found)
  · rwa [movedPath_of_outside inside, movedPath_of_outside alsoInside] at same

/-- Where the nodes of a disk are once a tree has been moved to where there is nothing. -/
theorem relocates_of_vacant (apart : Apart source target)
    (free : ∀ names, disk.nodes.get? (target ++ names) = none) :
    Relocates source target disk
      { disk with nodes := relocated source target disk.nodes } where
  arrived := by
    intro names
    ext node
    rw [get?_relocated free]
    constructor
    · rintro ⟨original, found, moved⟩
      by_cases inside : source <+: original
      · obtain ⟨more, rfl⟩ := inside
        rw [movedPath_append, List.append_cancel_left_eq] at moved
        rwa [moved] at found
      · rw [movedPath_of_outside inside] at moved
        rw [moved, free] at found
        cases found
    · exact fun found => ⟨_, found, movedPath_append ..⟩
  left := by
    intro names
    rw [Option.eq_none_iff_forall_ne_some]
    intro node found
    obtain ⟨original, _, moved⟩ := (get?_relocated free).1 found
    by_cases inside : source <+: original
    · obtain ⟨more, rfl⟩ := inside
      rw [movedPath_append] at moved
      exact apart.symm.not_prefix_append names ⟨more, moved⟩
    · rw [movedPath_of_outside inside] at moved
      exact inside (moved ▸ List.prefix_append _ _)
  elsewhere := by
    intro path outside alsoOutside
    ext node
    rw [get?_relocated free]
    constructor
    · rintro ⟨original, found, moved⟩
      by_cases inside : source <+: original
      · obtain ⟨more, rfl⟩ := inside
        rw [movedPath_append] at moved
        exact absurd ⟨more, moved⟩ alsoOutside
      · rw [movedPath_of_outside inside] at moved
        rwa [moved] at found
    · exact fun found => ⟨path, found, movedPath_of_outside outside⟩
  files := rfl
  next := rfl

namespace Relocates

/-- Every node after a move was there before it. -/
theorem of_mem (relocates : Relocates source target before after)
    (found : after.nodes.get? path = some node) :
    ∃ original, before.nodes.get? original = some node := by
  by_cases inside : target <+: path
  · obtain ⟨names, rfl⟩ := inside
    rw [relocates.arrived] at found
    exact ⟨_, found⟩
  · by_cases alsoInside : source <+: path
    · obtain ⟨names, rfl⟩ := alsoInside
      rw [relocates.left] at found
      cases found
    · rw [relocates.elsewhere alsoInside inside] at found
      exact ⟨_, found⟩

/-- A disk stays proper when a tree is moved to a directory. -/
theorem proper (apart : Apart source target) (proper : before.Proper)
    (inside : target.parent ≠ [] → before.nodes.get? target.parent = some .directory)
    (relocates : Relocates source target before after) : after.Proper where
  parents := by
    intro path name node below found
    by_cases arrived : target <+: path ++ [name]
    · obtain ⟨names, same⟩ := arrived
      rcases List.eq_nil_or_concat names with rfl | ⟨more, last, rfl⟩
      · -- The tree itself is where the path leads, so what is above it is not moved.
        rw [List.append_nil] at same
        subst same
        rw [Path.parent, List.dropLast_concat] at inside
        have alsoOutside : ¬ source <+: path := fun leads =>
          apart.notBelow (leads.trans (List.prefix_append _ _))
        rw [relocates.elsewhere alsoOutside (not_append_prefix_self path name)]
        exact inside below
      · rw [List.concat_eq_append, ← List.append_assoc] at same
        obtain ⟨rfl, _⟩ := List.append_inj' same rfl
        rw [List.append_assoc, relocates.arrived, ← List.append_assoc] at found
        rw [relocates.arrived]
        exact proper.parents (by simp [apart.source_ne_nil]) found
    · by_cases left : source <+: path ++ [name]
      · obtain ⟨names, same⟩ := left
        rw [← same, relocates.left] at found
        cases found
      · have outside {tree : Path} (outside : ¬ tree <+: path ++ [name]) : ¬ tree <+: path :=
          fun inside => outside (inside.trans (List.prefix_append _ _))
        rw [relocates.elsewhere left arrived] at found
        rw [relocates.elsewhere (outside left) (outside arrived)]
        exact proper.parents below found
  numbers := by
    intro path number found
    obtain ⟨original, stored⟩ := relocates.of_mem found
    rw [relocates.next]
    exact proper.numbers stored

/-- The tree is carried to its new place. -/
theorem carries {β : Type} {view : FileContent → β} (apart : Apart source target)
    (proper : before.Proper) (alsoProper : after.Proper)
    (relocates : Relocates source target before after) :
    Carries view source target before after where
  node := by
    intro names node found
    rw [proper.find_eq_ok_iff (by simp [apart.source_ne_nil])] at found
    rw [alsoProper.find_eq_ok_iff (by simp [apart.symm.source_ne_nil]), relocates.arrived]
    exact found
  content _ := by rw [Disk.content, Disk.content, relocates.files]

/-- A tree has been moved in place of another one if that one has been removed first. -/
theorem of_without (apart : Apart source target)
    (relocates : Relocates source target (before.without target) after) :
    Relocates source target before after where
  arrived names := by
    rw [relocates.arrived, get?_without, if_neg (apart.symm.not_prefix_append names)]
  left := relocates.left
  elsewhere outside alsoOutside := by
    rw [relocates.elsewhere outside alsoOutside, get?_without, if_neg alsoOutside]
  files := relocates.files
  next := relocates.next

end Relocates

/-- Only what is there can be moved. -/
theorem find_of_move {moved : Disk} (works : disk.move source target = .ok moved) :
    disk.find source.parent = .ok .directory ∧ ∃ node, disk.find source = .ok node := by
  simp only [move, permit, bind, Except.bind] at works
  split at works
  · cases works
  · split at works
    · cases works
    · next isDirectory =>
      split at works
      · cases works
      · split at works
        · cases works
        · next node found =>
          exact ⟨requireDirectory_eq_ok_iff.1 isDirectory, node, found⟩

/-- What is refused is not moved. -/
theorem move_of_refusal {refusal : Refusal}
    (refuses : disk.refusal? (.move source target) = some refusal) :
    disk.move source target = .error refusal.error := by
  simp [move, permit, refuses, bind, Except.bind]

/-- What is in a directory can be moved to a free name in it, unless that is refused. -/
theorem move_of_vacant {root : Path} {first second : String} (differs : first ≠ second)
    (permitted : disk.refusal? (.move (root ++ [first]) (root ++ [second])) = none)
    (inside : disk.find root = .ok .directory) (found : disk.find (root ++ [first]) = .ok node)
    (vacant : disk.nodes.get? (root ++ [second]) = none) :
    disk.move (root ++ [first]) (root ++ [second]) =
      .ok { disk with nodes := relocated (root ++ [first]) (root ++ [second]) disk.nodes } := by
  have free := find_of_vacant inside vacant
  have isDirectory := requireDirectory_eq_ok_iff.2 inside
  have apart : (root ++ [first]).isPrefixOf (root ++ [second]) = false := by
    rw [← Bool.not_eq_true, List.isPrefixOf_iff_prefix, List.prefix_append_right_inj]
    simp [List.prefix_cons_iff, differs]
  have room : disk.makeRoom node (root ++ [second]) = .ok disk := by
    cases node <;> simp [makeRoom, free]
  simp [move, permit, permitted, Path.parent, isDirectory, found, differs, apart, room, relocated,
    bind, Except.bind, pure, Except.pure]

end Relocates

end Disk

end ObjectVault
