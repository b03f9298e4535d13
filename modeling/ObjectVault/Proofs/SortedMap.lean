import ObjectVault.SortedMap

/-!
# Lookups in sorted maps

What a lookup finds after a change of the map, by the key that was changed. `insertAll` puts in
many values, of which a later one takes the place of an earlier one, and `filterMap` converts the
values and drops some of them.
-/

namespace ObjectVault.SortedMap

/-- Converts the values and drops those that are not converted to anything. -/
def filterMap {κ ν μ : Type} [Ord κ] (map : SortedMap κ ν) (convert : ν → Option μ) :
    SortedMap κ μ where
  entries := map.entries.filterMap fun entry => (convert entry.2).map (entry.1, ·)
  ascending := by
    rw [List.pairwise_filterMap]
    refine map.ascending.imp fun {left right} before => ?_
    intro first isFirst second isSecond
    obtain ⟨_, _, rfl⟩ := Option.map_eq_some_iff.1 isFirst
    obtain ⟨_, _, rfl⟩ := Option.map_eq_some_iff.1 isSecond
    exact before

/-- Puts values into a map one after the other. -/
def insertAll {κ ν : Type} [Ord κ] [Std.TransOrd κ] (map : SortedMap κ ν)
    (entries : List (κ × ν)) : SortedMap κ ν :=
  entries.foldl (fun map entry => map.insert entry.1 entry.2) map

/-- Removes keys from a map one after the other. -/
def eraseAll {κ ν : Type} [Ord κ] (map : SortedMap κ ν) (keys : List κ) : SortedMap κ ν :=
  keys.foldl erase map

/-- The keys ascend, each of them only once. -/
theorem keys_ascending {κ ν : Type} [Ord κ] (map : SortedMap κ ν) :
    map.keys.Pairwise fun first second => compare first second = .lt :=
  List.pairwise_map.2 map.ascending

variable {κ ν : Type} [Ord κ] [Std.TransOrd κ] [Std.LawfulEqOrd κ] {key other : κ}

theorem get?_filterMap {μ : Type} (map : SortedMap κ ν) (convert : ν → Option μ) (key : κ) :
    (map.filterMap convert).get? key = (map.get? key).bind convert := by
  ext value
  simp only [Option.bind_eq_some_iff, get?_eq_some_iff, filterMap, List.mem_filterMap, Prod.exists,
    Option.map_eq_some_iff, Prod.mk.injEq]
  constructor
  · rintro ⟨_, original, member, _, converted, rfl, rfl⟩
    exact ⟨original, member, converted⟩
  · rintro ⟨original, member, converted⟩
    exact ⟨key, original, member, value, converted, rfl, rfl⟩

@[simp] theorem get?_insert_self (map : SortedMap κ ν) (key : κ) (value : ν) :
    (map.insert key value).get? key = some value := by
  rw [get?_insert, if_pos Std.ReflOrd.compare_self]

theorem get?_insert_of_ne (map : SortedMap κ ν) (value : ν) (differs : other ≠ key) :
    (map.insert key value).get? other = map.get? other := by
  rw [get?_insert, if_neg fun same => differs (Std.LawfulEqOrd.eq_of_compare same)]

@[simp] theorem get?_erase_self (map : SortedMap κ ν) (key : κ) :
    (map.erase key).get? key = none := by
  rw [get?_erase, if_pos Std.ReflOrd.compare_self]

theorem get?_erase_of_ne (map : SortedMap κ ν) (differs : other ≠ key) :
    (map.erase key).get? other = map.get? other := by
  rw [get?_erase, if_neg fun same => differs (Std.LawfulEqOrd.eq_of_compare same).symm]

/-- A value is put in before or after all values are converted. -/
theorem filterMap_insert {μ : Type} (map : SortedMap κ ν) (convert : ν → μ) (key : κ) (value : ν) :
    (map.insert key value).filterMap (fun value => some (convert value)) =
      (map.filterMap fun value => some (convert value)).insert key (convert value) := by
  apply ext_get?
  intro other
  by_cases same : other = key
  · subst same
    rw [get?_filterMap, get?_insert_self, get?_insert_self, Option.bind_some]
  · rw [get?_filterMap, get?_insert_of_ne _ _ same, get?_insert_of_ne _ _ same, get?_filterMap]

/-- A key is removed before or after all values are converted. -/
theorem filterMap_erase {μ : Type} (map : SortedMap κ ν) (convert : ν → Option μ) (key : κ) :
    (map.erase key).filterMap convert = (map.filterMap convert).erase key := by
  apply ext_get?
  intro other
  by_cases same : other = key
  · subst same
    rw [get?_filterMap, get?_erase_self, get?_erase_self, Option.bind_none]
  · rw [get?_filterMap, get?_erase_of_ne _ same, get?_erase_of_ne _ same, get?_filterMap]

theorem get?_filter (map : SortedMap κ ν) (test : κ → ν → Bool) (key : κ) :
    (map.filter test).get? key = (map.get? key).filter (test key) := by
  ext value
  simp only [get?_eq_some_iff, filter, List.mem_filter, Option.filter_eq_some_iff]

/-- What is found after an insertion is what was inserted, or was there before under another
key. -/
theorem of_get?_insert {map : SortedMap κ ν} {value found : ν}
    (isThere : (map.insert key value).get? other = some found) :
    (other = key ∧ found = value) ∨ (other ≠ key ∧ map.get? other = some found) := by
  by_cases same : other = key
  · subst same
    rw [get?_insert_self] at isThere
    exact .inl ⟨rfl, (Option.some.inj isThere).symm⟩
  · rw [get?_insert_of_ne map value same] at isThere
    exact .inr ⟨same, isThere⟩

/-- What is found after a removal was there before, under another key. -/
theorem of_get?_erase {map : SortedMap κ ν} {value : ν}
    (found : (map.erase key).get? other = some value) :
    other ≠ key ∧ map.get? other = some value := by
  by_cases same : other = key
  · subst same
    simp at found
  · rw [get?_erase_of_ne map same] at found
    exact ⟨same, found⟩

/-- What is found after many removals was there before, under a key that is not removed. -/
theorem get?_eraseAll_eq_some_iff {map : SortedMap κ ν} {keys : List κ} {value : ν} :
    (map.eraseAll keys).get? key = some value ↔ key ∉ keys ∧ map.get? key = some value := by
  induction keys generalizing map with
  | nil => simp [eraseAll]
  | cons first rest ih =>
    rw [List.mem_cons, not_or, and_right_comm, and_comm]
    refine ih.trans (and_congr_right fun _ => ?_)
    constructor
    · exact of_get?_erase
    · rintro ⟨differs, found⟩
      rw [get?_erase_of_ne map differs, found]

/-- The keys are those under which there is something. -/
theorem mem_keys {map : SortedMap κ ν} : key ∈ map.keys ↔ ∃ value, map.get? key = some value := by
  simp [keys, get?_eq_some_iff]

theorem contains_iff {map : SortedMap κ ν} : map.contains key = true ↔ key ∈ map.keys := by
  rw [contains, Option.isSome_iff_exists, mem_keys]

theorem mem_keys_insert {map : SortedMap κ ν} {value : ν} :
    other ∈ (map.insert key value).keys ↔ other = key ∨ other ∈ map.keys := by
  rw [mem_keys, mem_keys]
  by_cases same : other = key
  · subst same
    simp
  · rw [get?_insert_of_ne map value same, or_iff_right same]

/-- The keys after many insertions are those of the insertions and those that were there before. -/
theorem mem_keys_insertAll {map : SortedMap κ ν} {entries : List (κ × ν)} :
    key ∈ (map.insertAll entries).keys ↔ key ∈ entries.map (·.1) ∨ key ∈ map.keys := by
  induction entries generalizing map with
  | nil => simp [insertAll]
  | cons entry rest ih =>
    calc key ∈ ((map.insert entry.1 entry.2).insertAll rest).keys
        ↔ key ∈ rest.map (·.1) ∨ key ∈ (map.insert entry.1 entry.2).keys := ih
      _ ↔ key ∈ (entry :: rest).map (·.1) ∨ key ∈ map.keys := by
        rw [mem_keys_insert, List.map_cons, List.mem_cons, or_left_comm, or_assoc]

/-- What is found after many insertions is one of them or was there before. -/
theorem of_get?_insertAll {map : SortedMap κ ν} {entries : List (κ × ν)} {value : ν}
    (found : (map.insertAll entries).get? key = some value) :
    (key, value) ∈ entries ∨ map.get? key = some value := by
  induction entries generalizing map with
  | nil => exact .inr found
  | cons entry rest ih =>
    rcases ih found with member | found
    · exact .inl (.tail _ member)
    · rcases of_get?_insert found with ⟨rfl, rfl⟩ | ⟨_, found⟩
      · exact .inl (.head _)
      · exact .inr found

/-- Nothing changes under a key that is not among the insertions. -/
theorem get?_insertAll_of_notMem {map : SortedMap κ ν} {entries : List (κ × ν)}
    (absent : ∀ value, (key, value) ∉ entries) :
    (map.insertAll entries).get? key = map.get? key := by
  induction entries generalizing map with
  | nil => rfl
  | cons entry rest ih =>
    have differs : key ≠ entry.1 := by
      rintro rfl
      exact absent entry.2 (.head _)
    calc ((map.insert entry.1 entry.2).insertAll rest).get? key
        = (map.insert entry.1 entry.2).get? key :=
          ih fun value member => absent value (.tail _ member)
      _ = map.get? key := get?_insert_of_ne map entry.2 differs

/-- What is inserted is found, if nothing else is inserted under its key. -/
theorem get?_insertAll_of_mem {map : SortedMap κ ν} {entries : List (κ × ν)} {value : ν}
    (member : (key, value) ∈ entries) (only : ∀ other, (key, other) ∈ entries → other = value) :
    (map.insertAll entries).get? key = some value := by
  induction entries generalizing map with
  | nil => cases member
  | cons entry rest ih =>
    by_cases again : (key, value) ∈ rest
    · exact ih again fun other member => only other (.tail _ member)
    · have here : entry = (key, value) := by
        rcases List.mem_cons.1 member with here | later
        · exact here.symm
        · exact absurd later again
      subst here
      have absent : ∀ other, (key, other) ∉ rest := by
        intro other later
        rw [only other (.tail _ later)] at later
        exact again later
      calc ((map.insert key value).insertAll rest).get? key
          = (map.insert key value).get? key := get?_insertAll_of_notMem absent
        _ = some value := get?_insert_self map key value

/-- What is found after insertions that are read off a list of items in some order: what the last
item says that says anything about the key, and what was there before if no item does. -/
theorem get?_insertAll_filterMap {ε : Type} {before : ε → ε → Prop}
    (asymmetric : ∀ {first second}, before first second → ¬ before second first)
    (read : ε → Option (κ × ν)) {items : List ε} (ordered : items.Pairwise before)
    {map : SortedMap κ ν} {value : ν} :
    (map.insertAll (items.filterMap read)).get? key = some value ↔
      (∃ item ∈ items, read item = some (key, value) ∧
        ∀ later ∈ items, before item later → ∀ other, read later ≠ some (key, other)) ∨
      (∀ item ∈ items, ∀ other, read item ≠ some (key, other)) ∧ map.get? key = some value := by
  induction items generalizing map with
  | nil => simp [insertAll]
  | cons item rest ih =>
    obtain ⟨first, ordered⟩ := List.pairwise_cons.1 ordered
    have notBefore (later) (member : later ∈ rest) : ¬ before later item :=
      asymmetric (first later member)
    have notItself : ¬ before item item := fun same => asymmetric same same
    cases isRead : read item with
    | none =>
      rw [List.filterMap_cons_none isRead, ih ordered]
      grind
    | some entry =>
      rw [List.filterMap_cons_some isRead]
      show ((map.insert entry.1 entry.2).insertAll (rest.filterMap read)).get? key = _ ↔ _
      rw [ih ordered]
      by_cases same : key = entry.1
      · subst same
        rw [get?_insert_self]
        grind
      · rw [get?_insert_of_ne _ _ same]
        grind

/-- The order of insertions does not matter if there is one value for each key. -/
theorem insertAll_congr (map : SortedMap κ ν) {first second : List (κ × ν)}
    (members : ∀ entry, entry ∈ first ↔ entry ∈ second)
    (functional : ∀ key value other, (key, value) ∈ first → (key, other) ∈ first → other = value) :
    map.insertAll first = map.insertAll second := by
  apply ext_get?
  intro key
  by_cases inserted : ∃ value, (key, value) ∈ first
  · obtain ⟨value, member⟩ := inserted
    rw [get?_insertAll_of_mem member fun other => functional key value other member,
      get?_insertAll_of_mem ((members _).1 member) fun other later =>
        functional key value other member ((members _).2 later)]
  · have absent : ∀ value, (key, value) ∉ first := fun value member => inserted ⟨value, member⟩
    rw [get?_insertAll_of_notMem absent,
      get?_insertAll_of_notMem fun value member => absent value ((members _).2 member)]

/-- A map is made of its entries. -/
theorem insertAll_entries (map : SortedMap κ ν) : insertAll ∅ map.entries = map := by
  apply ext_get?
  intro key
  cases found : map.get? key with
  | some value =>
    refine get?_insertAll_of_mem (get?_eq_some_iff.1 found) fun other member => ?_
    rw [← get?_eq_some_iff, found] at member
    exact (Option.some.inj member).symm
  | none =>
    refine get?_insertAll_of_notMem fun value member => ?_
    rw [← get?_eq_some_iff, found] at member
    cases member

/-- What is found in a map whose keys have become others, if no two have become the same. -/
theorem get?_ofList_map {map : SortedMap κ ν} {rename : κ → κ}
    (apart : ∀ {first second : κ} {value another : ν}, map.get? first = some value →
      map.get? second = some another → rename first = rename second → first = second)
    {value : ν} :
    (ofList (map.entries.map fun entry => (rename entry.1, entry.2))).get? key = some value ↔
      ∃ original, map.get? original = some value ∧ rename original = key := by
  have members {found : ν} :
      (key, found) ∈ map.entries.map (fun entry => (rename entry.1, entry.2)) ↔
        ∃ original, map.get? original = some found ∧ rename original = key := by
    simp only [get?_eq_some_iff, List.mem_map, Prod.mk.injEq, Prod.exists]
    constructor
    · rintro ⟨original, _, member, renamed, rfl⟩
      exact ⟨original, member, renamed⟩
    · rintro ⟨original, member, renamed⟩
      exact ⟨original, found, member, renamed, rfl⟩
  constructor
  · intro found
    rcases of_get?_insertAll found with member | absent
    · exact members.1 member
    · cases absent
  · rintro ⟨original, stored, renamed⟩
    refine get?_insertAll_of_mem (members.2 ⟨original, stored, renamed⟩) ?_
    intro other member
    obtain ⟨another, alsoStored, alsoRenamed⟩ := members.1 member
    obtain rfl := apart stored alsoStored (renamed.trans alsoRenamed.symm)
    rw [stored] at alsoStored
    exact (Option.some.inj alsoStored).symm

end ObjectVault.SortedMap
