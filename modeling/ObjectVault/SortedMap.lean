/-!
# Sorted maps

Finite maps kept as lists of entries in strictly ascending key order. The order is part of the
type, so two maps with the same entries are the same value (`SortedMap.ext_get?`), and a scan
of a map visits its keys in order, each once.
-/

namespace ObjectVault

/-- A finite map from keys to values, as its entries in ascending key order. -/
structure SortedMap (κ ν : Type) [Ord κ] where
  entries : List (κ × ν)
  ascending : entries.Pairwise fun left right => compare left.1 right.1 = .lt

namespace SortedMap

variable {κ ν : Type} [Ord κ]

/-- The map without entries. -/
def empty : SortedMap κ ν := ⟨[], .nil⟩

instance : EmptyCollection (SortedMap κ ν) := ⟨empty⟩

instance : Inhabited (SortedMap κ ν) := ⟨empty⟩

instance [DecidableEq κ] [DecidableEq ν] : DecidableEq (SortedMap κ ν) := fun left right =>
  decidable_of_iff (left.entries = right.entries)
    ⟨fun same => by cases left; cases right; cases same; rfl, fun same => same ▸ rfl⟩

/-- The value under a key. -/
def get? (map : SortedMap κ ν) (key : κ) : Option ν :=
  (map.entries.find? fun entry => compare key entry.1 == .eq).map (·.2)

/-- Whether there is a value under a key. -/
def contains (map : SortedMap κ ν) (key : κ) : Bool := (map.get? key).isSome

/-- The keys in ascending order. -/
def keys (map : SortedMap κ ν) : List κ := map.entries.map (·.1)

/-- Puts a value into ascending entries, in place of the one under the same key if there is
one. -/
def insertEntry (key : κ) (value : ν) : List (κ × ν) → List (κ × ν)
  | [] => [(key, value)]
  | entry :: rest =>
    match compare key entry.1 with
    | .lt => (key, value) :: entry :: rest
    | .eq => (key, value) :: rest
    | .gt => entry :: insertEntry key value rest

/-- An entry after an insertion is the new one, or it was there. -/
theorem mem_insertEntry {key : κ} {value : ν} {entries : List (κ × ν)} {entry : κ × ν}
    (member : entry ∈ insertEntry key value entries) : entry = (key, value) ∨ entry ∈ entries := by
  induction entries with
  | nil => simpa [insertEntry] using member
  | cons head rest ih =>
    unfold insertEntry at member
    split at member <;> grind

/-- An insertion leaves the keys in order. -/
theorem insertEntry_ascending [Std.TransOrd κ] (key : κ) (value : ν) {entries : List (κ × ν)}
    (ascending : entries.Pairwise fun left right => compare left.1 right.1 = .lt) :
    (insertEntry key value entries).Pairwise fun left right => compare left.1 right.1 = .lt := by
  induction entries with
  | nil => simp [insertEntry]
  | cons head rest ih =>
    obtain ⟨headFirst, restAscending⟩ := List.pairwise_cons.1 ascending
    unfold insertEntry
    split
    · next before =>
      refine List.pairwise_cons.2 ⟨fun entry member => ?_, ascending⟩
      rcases List.mem_cons.1 member with rfl | later
      · exact before
      · exact Std.TransCmp.lt_trans before (headFirst entry later)
    · next same =>
      refine List.pairwise_cons.2 ⟨fun entry member => ?_, restAscending⟩
      exact Std.TransCmp.lt_of_eq_of_lt same (headFirst entry member)
    · next after =>
      refine List.pairwise_cons.2 ⟨fun entry member => ?_, ih restAscending⟩
      rcases mem_insertEntry member with rfl | old
      · exact Std.OrientedCmp.lt_of_gt after
      · exact headFirst entry old

/-- Puts a value under a key. -/
def insert [Std.TransOrd κ] (map : SortedMap κ ν) (key : κ) (value : ν) : SortedMap κ ν :=
  ⟨insertEntry key value map.entries, insertEntry_ascending key value map.ascending⟩

/-- Keeps the entries that satisfy a test. -/
def filter (map : SortedMap κ ν) (test : κ → ν → Bool) : SortedMap κ ν :=
  ⟨map.entries.filter fun entry => test entry.1 entry.2, map.ascending.filter _⟩

/-- Removes the value under a key, if there is one. -/
def erase (map : SortedMap κ ν) (key : κ) : SortedMap κ ν :=
  map.filter fun other _ => compare key other != .eq

/-- The map of some entries, of which a later one takes the place of an earlier one under the
same key. -/
def ofList [Std.TransOrd κ] (entries : List (κ × ν)) : SortedMap κ ν :=
  entries.foldl (fun map entry => map.insert entry.1 entry.2) empty

@[simp] theorem get?_empty (key : κ) : (empty : SortedMap κ ν).get? key = none := rfl

/-- A value is found exactly if there is an entry with it. -/
theorem get?_eq_some_iff [Std.TransOrd κ] [Std.LawfulEqOrd κ] {map : SortedMap κ ν} {key : κ}
    {value : ν} : map.get? key = some value ↔ (key, value) ∈ map.entries := by
  obtain ⟨entries, ascending⟩ := map
  simp only [get?]
  induction entries with
  | nil => simp
  | cons head rest ih =>
    obtain ⟨headFirst, restAscending⟩ := List.pairwise_cons.1 ascending
    by_cases same : compare key head.1 = .eq
    · have equal : key = head.1 := Std.LawfulEqOrd.eq_of_compare same
      simp only [List.find?_cons, same, beq_self_eq_true, Option.map_some, Option.some.injEq,
        List.mem_cons]
      constructor
      · rintro rfl
        exact .inl (by rw [equal])
      · rintro (here | later)
        · rw [← here]
        · have := headFirst _ later
          rw [← equal, Std.ReflOrd.compare_self] at this
          cases this
    · have differs : (key, value) ≠ head := by
        rintro rfl
        exact same Std.ReflOrd.compare_self
      have skipped : (compare key head.1 == Ordering.eq) = false := by simpa using same
      simp only [List.find?_cons, skipped, List.mem_cons, differs, false_or]
      exact ih restAscending

theorem get?_insert [Std.TransOrd κ] (map : SortedMap κ ν) (key other : κ) (value : ν) :
    (map.insert key value).get? other =
      if compare other key = .eq then some value else map.get? other := by
  obtain ⟨entries, ascending⟩ := map
  simp only [get?, insert]
  induction entries with
  | nil => by_cases same : compare other key = .eq <;> simp [insertEntry, same]
  | cons head rest ih =>
    obtain ⟨headFirst, restAscending⟩ := List.pairwise_cons.1 ascending
    have later := ih restAscending
    unfold insertEntry
    split
    · by_cases same : compare other key = .eq <;> simp [same]
    · next equal =>
      by_cases same : compare other key = .eq
      · simp [same]
      · have differs : compare other head.1 ≠ .eq := fun matched =>
          same (Std.TransCmp.eq_trans matched (Std.OrientedCmp.eq_symm equal))
        simp [same, differs]
    · next after =>
      by_cases here : compare other head.1 = .eq
      · have differs : compare other key ≠ .eq := fun matched => by
          have := Std.TransCmp.eq_trans (Std.OrientedCmp.eq_symm matched) here
          rw [after] at this
          cases this
        simp [here, differs]
      · have skipped : (compare other head.1 == Ordering.eq) = false := by simpa using here
        simpa [List.find?_cons, skipped] using later

theorem get?_erase [Std.TransOrd κ] (map : SortedMap κ ν) (key other : κ) :
    (map.erase key).get? other = if compare key other = .eq then none else map.get? other := by
  obtain ⟨entries, ascending⟩ := map
  simp only [get?, erase, filter, List.find?_filter]
  by_cases same : compare key other = .eq
  · rw [if_pos same]
    simp only [Option.map_eq_none_iff, List.find?_eq_none, bne_iff_ne, beq_iff_eq,
      decide_eq_true_eq, not_and]
    exact fun entry _ kept matched => kept (Std.TransCmp.eq_trans same matched)
  · rw [if_neg same]
    congr 2
    funext entry
    by_cases matched : compare other entry.1 = .eq
    · have : compare key entry.1 ≠ .eq := fun removed =>
        same (Std.TransCmp.eq_trans removed (Std.OrientedCmp.eq_symm matched))
      simp [matched, this]
    · simp [matched]

/-- Ascending entries are determined by their members. -/
theorem eq_of_mem_iff [Std.TransOrd κ] {left right : List (κ × ν)}
    (leftAscending : left.Pairwise fun first second => compare first.1 second.1 = .lt)
    (rightAscending : right.Pairwise fun first second => compare first.1 second.1 = .lt)
    (members : ∀ entry, entry ∈ left ↔ entry ∈ right) : left = right := by
  induction left generalizing right with
  | nil =>
    cases right with
    | nil => rfl
    | cons head rest => exact absurd ((members head).2 (by simp)) (by simp)
  | cons first leftRest ih =>
    cases right with
    | nil => exact absurd ((members first).1 (by simp)) (by simp)
    | cons second rightRest =>
      obtain ⟨firstLeast, leftRestAscending⟩ := List.pairwise_cons.1 leftAscending
      obtain ⟨secondLeast, rightRestAscending⟩ := List.pairwise_cons.1 rightAscending
      have irrefl : ∀ entry : κ × ν, compare entry.1 entry.1 ≠ .lt := fun entry => by
        simp [Std.ReflOrd.compare_self]
      have heads : first = second := by
        rcases List.mem_cons.1 ((members first).1 (by simp)) with here | later
        · exact here
        rcases List.mem_cons.1 ((members second).2 (by simp)) with here | later'
        · exact here.symm
        exact absurd (Std.TransCmp.lt_trans (firstLeast _ later') (secondLeast _ later))
          (irrefl first)
      subst heads
      have rests : leftRest = rightRest := by
        refine ih leftRestAscending rightRestAscending fun entry => ⟨fun member => ?_,
          fun member => ?_⟩
        · rcases List.mem_cons.1 ((members entry).1 (.tail _ member)) with rfl | later
          · exact absurd (firstLeast _ member) (irrefl _)
          · exact later
        · rcases List.mem_cons.1 ((members entry).2 (.tail _ member)) with rfl | later
          · exact absurd (secondLeast _ member) (irrefl _)
          · exact later
      rw [rests]

/-- Two maps with the same value under every key are the same. -/
theorem ext_get? [Std.TransOrd κ] [Std.LawfulEqOrd κ] {left right : SortedMap κ ν}
    (same : ∀ key, left.get? key = right.get? key) : left = right := by
  obtain ⟨leftEntries, leftAscending⟩ := left
  obtain ⟨rightEntries, rightAscending⟩ := right
  have members : ∀ entry, entry ∈ leftEntries ↔ entry ∈ rightEntries := fun (key, value) => by
    have agree := same key
    constructor
    · exact fun member => get?_eq_some_iff.1 (agree ▸ get?_eq_some_iff.2 member)
    · exact fun member => get?_eq_some_iff.1 (agree.symm ▸ get?_eq_some_iff.2 member)
  cases eq_of_mem_iff leftAscending rightAscending members
  rfl

end SortedMap

end ObjectVault
