import ObjectVault.Metadata
import ObjectVault.Proofs.BlobKey
import ObjectVault.Proofs.Exchange
import ObjectVault.Proofs.SortedMap

/-!
# Sound databases

What is to be found in a database of a vault at any moment. `Table.Blank` is one that is not yet
initialized, `Table.Ready` one whose next handle is known, and `Table.Sound` is what both have in
common with every moment between. Each kind of write that a vault makes keeps a database ready.
-/

namespace ObjectVault

/-- A number that is not the last is less than its successor. -/
theorem Metadata.toNat_add_one {number : UInt32} (left : number ≠ lastNumber) :
    (number + 1).toNat = number.toNat + 1 := by
  have bounded := number.toNat_lt
  have notLast : number.toNat ≠ 2 ^ 32 - 1 := by
    intro last
    exact left (UInt32.toNat_inj.1 last)
  rw [UInt32.toNat_add]
  show (number.toNat + 1) % 2 ^ 32 = number.toNat + 1
  omega

namespace Table

/-- Whether something is stored under the key of a blob. -/
def Stores (table : Table) (category : Category) (number : UInt32) : Prop :=
  ∃ value, table.get? (BlobKey.encode category number) = some value

/-- Whether all keys are keys that the vault writes. -/
def Canonical (table : Table) : Prop :=
  ∀ key value, table.get? key = some value →
    (∃ item : MetadataItem, key = item.key) ∨
      ∃ category number, key = BlobKey.encode category number

/-- A database that is initialized, and whose counter stands at a number. -/
structure Ready (table : Table) (next : UInt32) : Prop where
  version :
    table.get? MetadataItem.formatVersion.key =
      some (Decimal.render Metadata.formatVersion.toNat)
  counter : table.get? MetadataItem.nextHandle.key = some (Decimal.render next.toNat)
  positive : 0 < next.toNat
  /-- There are only keys that the vault writes. -/
  canonical : table.Canonical
  /-- The handles of all objects were given out. -/
  below : ∀ {category number}, category ≠ .internal → table.Stores category number →
    0 < number.toNat ∧ number.toNat < next.toNat
  exclusive : ∀ {number}, table.Stores .publicObject number → ¬ table.Stores .privateObject number

/-- A database that is not initialized. -/
structure Blank (table : Table) : Prop where
  only : ∀ key value, table.get? key = some value → key = MetadataItem.nextHandle.key
  counter : ∀ value, table.get? MetadataItem.nextHandle.key = some value →
    value = Decimal.render Metadata.firstHandle.toNat

/-- What is to be found in a database of a vault at any moment. -/
structure Sound (table : Table) : Prop where
  /-- Every key is that of an item of metadata or of a blob. -/
  keys : ∀ entry ∈ table.entries, (∃ item : MetadataItem, entry.1 = item.key) ∨
    ∃ category number, entry.1 = BlobKey.encode category number
  /-- A database with a version has version 1 and a counter that is a positive number. -/
  initialized : ∀ version, table.get? MetadataItem.formatVersion.key = some version →
    version = Bytes.ofText "1" ∧ ∃ next : UInt32, 1 ≤ next ∧
      table.get? MetadataItem.nextHandle.key = some (Decimal.render next.toNat)
  /-- The handles of all objects are positive and less than the counter. -/
  handles : ∀ category number, category ≠ .internal →
    table.contains (BlobKey.encode category number) = true → 1 ≤ number ∧
      ∃ next : UInt32, number < next ∧
        table.get? MetadataItem.nextHandle.key = some (Decimal.render next.toNat)
  exclusive : ∀ number,
    ¬ (table.contains (BlobKey.encode .publicObject number) = true ∧
      table.contains (BlobKey.encode .privateObject number) = true)
  /-- A database without a version has no blob, and its counter is 1 if it is there. -/
  uninitialized : table.get? MetadataItem.formatVersion.key = none →
    (∀ category number, table.contains (BlobKey.encode category number) = false) ∧
      (table.get? MetadataItem.nextHandle.key = none ∨
        table.get? MetadataItem.nextHandle.key = some (Bytes.ofText "1"))

variable {table : Table} {category other : Category} {number another next : UInt32} {value : Bytes}

theorem contains_encode :
    table.contains (BlobKey.encode category number) = true ↔ table.Stores category number := by
  rw [SortedMap.contains, Option.isSome_iff_exists]
  rfl

/-- A blob that is stored is there, with all others. -/
theorem stores_insert_encode :
    Stores (table.insert (BlobKey.encode category number) value) other another ↔
      (other = category ∧ another = number) ∨ table.Stores other another := by
  by_cases same : BlobKey.encode other another = BlobKey.encode category number
  · have here := BlobKey.encode_inj.1 same
    simp [Stores, here]
  · rw [Stores, SortedMap.get?_insert_of_ne table value same]
    rw [BlobKey.encode_inj] at same
    simp [same, Stores]

/-- To write an item of metadata stores no blob. -/
theorem stores_insert_key {item : MetadataItem} :
    Stores (table.insert item.key value) other another ↔ table.Stores other another := by
  rw [Stores, SortedMap.get?_insert_of_ne table value (BlobKey.encode_ne_key other another item)]
  rfl

/-- A blob that is removed is not there, and all others are. -/
theorem stores_erase_encode :
    Stores (table.erase (BlobKey.encode category number)) other another ↔
      ¬ (other = category ∧ another = number) ∧ table.Stores other another := by
  by_cases same : BlobKey.encode other another = BlobKey.encode category number
  · have here := BlobKey.encode_inj.1 same
    simp [Stores, here]
  · rw [Stores, SortedMap.get?_erase_of_ne table same]
    rw [BlobKey.encode_inj] at same
    simp [same, Stores]

@[simp] theorem get?_key_insert_encode (item : MetadataItem) :
    (table.insert (BlobKey.encode category number) value).get? item.key = table.get? item.key :=
  SortedMap.get?_insert_of_ne table value (BlobKey.encode_ne_key category number item).symm

@[simp] theorem get?_key_erase_encode (item : MetadataItem) :
    (table.erase (BlobKey.encode category number)).get? item.key = table.get? item.key :=
  SortedMap.get?_erase_of_ne table (BlobKey.encode_ne_key category number item).symm

theorem get?_key_insert_key {item changed : MetadataItem} (differs : item ≠ changed) :
    (table.insert changed.key value).get? item.key = table.get? item.key :=
  SortedMap.get?_insert_of_ne table value fun same => differs (BlobKey.key_inj.1 same)

/-- An item of metadata has a key that the vault writes. -/
theorem Canonical.insert_key (canonical : table.Canonical) (item : MetadataItem) :
    Canonical (table.insert item.key value) := by
  intro key found stored
  rcases SortedMap.of_get?_insert stored with ⟨same, _⟩ | ⟨_, stored⟩
  · exact .inl ⟨item, same⟩
  · exact canonical key found stored

/-- So has a blob under the key that is written for it. -/
theorem Canonical.insert_encode (canonical : table.Canonical) :
    Canonical (table.insert (BlobKey.encode category number) value) := by
  intro key found stored
  rcases SortedMap.of_get?_insert stored with ⟨same, _⟩ | ⟨_, stored⟩
  · exact .inr ⟨category, number, same⟩
  · exact canonical key found stored

/-- No key is new when one is removed. -/
theorem Canonical.erase (canonical : table.Canonical) (key : Bytes) :
    Canonical (SortedMap.erase table key) :=
  fun other found stored => canonical other found (SortedMap.of_get?_erase stored).2

/-- A database that was never written to is not initialized. -/
theorem blank_empty : Blank ∅ where
  only _ _ stored := by cases stored
  counter _ stored := by cases stored

namespace Ready

/-- The counter may be moved forward. -/
theorem advance (ready : Ready table next) (left : next ≠ Metadata.lastNumber) :
    Ready (table.insert MetadataItem.nextHandle.key (Decimal.render (next + 1).toNat))
      (next + 1) where
  version := by
    rw [get?_key_insert_key (by simp)]
    exact ready.version
  counter := SortedMap.get?_insert_self _ _ _
  positive := by
    rw [Metadata.toNat_add_one left]
    omega
  canonical := ready.canonical.insert_key _
  below := by
    intro category number isObject stored
    have bounds := ready.below isObject (stores_insert_key.1 stored)
    rw [Metadata.toNat_add_one left]
    omega
  exclusive isPublic isPrivate :=
    ready.exclusive (stores_insert_key.1 isPublic) (stores_insert_key.1 isPrivate)

/-- An internal blob may be stored. -/
theorem storeInternal (ready : Ready table next) (number : UInt32) (value : Bytes) :
    Ready (table.insert (BlobKey.encode .internal number) value) next where
  version := by simpa using ready.version
  counter := by simpa using ready.counter
  positive := ready.positive
  canonical := ready.canonical.insert_encode
  below := by
    intro category another isObject stored
    rcases stores_insert_encode.1 stored with ⟨isInternal, _⟩ | stored
    · exact absurd isInternal isObject
    · exact ready.below isObject stored
  exclusive := by
    intro another isPublic isPrivate
    simp only [stores_insert_encode, reduceCtorEq, false_and, false_or] at isPublic isPrivate
    exact ready.exclusive isPublic isPrivate

/-- An object may be stored under a handle that was given out and under which there is none of
other privacy. -/
theorem store (ready : Ready table next) {isPrivate : Bool} (positive : 0 < number.toNat)
    (given : number.toNat < next.toNat) (free : ¬ table.Stores (.ofPrivacy !isPrivate) number)
    (value : Bytes) :
    Ready (table.insert (BlobKey.encode (.ofPrivacy isPrivate) number) value) next where
  version := by simpa using ready.version
  counter := by simpa using ready.counter
  positive := ready.positive
  canonical := ready.canonical.insert_encode
  below := by
    intro category another isObject stored
    rcases stores_insert_encode.1 stored with ⟨_, rfl⟩ | stored
    · exact ⟨positive, given⟩
    · exact ready.below isObject stored
  exclusive := by
    intro another isPublic alsoPrivate
    cases isPrivate with
    | true =>
      simp only [Category.ofPrivacy, stores_insert_encode, reduceCtorEq, false_and, true_and,
        false_or] at isPublic alsoPrivate
      rcases alsoPrivate with rfl | alsoPrivate
      · exact free isPublic
      · exact ready.exclusive isPublic alsoPrivate
    | false =>
      simp only [Category.ofPrivacy, stores_insert_encode, reduceCtorEq, false_and, true_and,
        false_or] at isPublic alsoPrivate
      rcases isPublic with rfl | isPublic
      · exact free alsoPrivate
      · exact ready.exclusive isPublic alsoPrivate

/-- An object is not stored in the other category as well. -/
theorem not_stores_other (ready : Ready table next) {isPrivate : Bool}
    (stored : table.Stores (.ofPrivacy isPrivate) number) :
    ¬ table.Stores (.ofPrivacy !isPrivate) number := by
  cases isPrivate with
  | true => exact fun isPublic => ready.exclusive isPublic stored
  | false => exact ready.exclusive stored

/-- The objects with one number are one object. -/
theorem category_eq (ready : Ready table next) (isObject : category ≠ .internal)
    (otherIsObject : other ≠ .internal) (stored : table.Stores category number)
    (alsoStored : table.Stores other number) : category = other := by
  cases category with
  | internal => exact absurd rfl isObject
  | publicObject =>
    cases other with
    | internal => exact absurd rfl otherIsObject
    | publicObject => rfl
    | privateObject => exact absurd alsoStored (ready.exclusive stored)
  | privateObject =>
    cases other with
    | internal => exact absurd rfl otherIsObject
    | publicObject => exact absurd stored (ready.exclusive alsoStored)
    | privateObject => rfl

/-- A blob may be removed. -/
theorem erase (ready : Ready table next) (category : Category) (number : UInt32) :
    Ready (SortedMap.erase table (BlobKey.encode category number)) next where
  version := by simpa using ready.version
  counter := by simpa using ready.counter
  positive := ready.positive
  canonical := ready.canonical.erase _
  below isObject stored := ready.below isObject (stores_erase_encode.1 stored).2
  exclusive isPublic isPrivate :=
    ready.exclusive (stores_erase_encode.1 isPublic).2 (stores_erase_encode.1 isPrivate).2

end Ready

/-- A blank database stays blank when the counter is set to the first handle. -/
theorem Blank.count (blank : Blank table) :
    Blank (table.insert MetadataItem.nextHandle.key
      (Decimal.render Metadata.firstHandle.toNat)) where
  only := by
    intro key found stored
    rcases SortedMap.of_get?_insert stored with ⟨same, _⟩ | ⟨_, stored⟩
    · exact same
    · exact blank.only key found stored
  counter := by
    intro found stored
    rw [SortedMap.get?_insert_self] at stored
    exact (Option.some.inj stored).symm

/-- There is no blob in a blank database. -/
theorem Blank.not_stores (blank : Blank table) : ¬ table.Stores category number := by
  rintro ⟨value, stored⟩
  exact BlobKey.encode_ne_key category number _ (blank.only _ _ stored)

/-- A blank database whose counter is set is ready once it has a version. -/
theorem Blank.ready (blank : Blank table)
    (counter : table.get? MetadataItem.nextHandle.key =
      some (Decimal.render Metadata.firstHandle.toNat)) :
    Ready (table.insert MetadataItem.formatVersion.key
      (Decimal.render Metadata.formatVersion.toNat)) Metadata.firstHandle where
  version := SortedMap.get?_insert_self _ _ _
  counter := by
    rw [get?_key_insert_key (by simp)]
    exact counter
  positive := by decide
  canonical :=
    Canonical.insert_key (fun key found stored => .inl ⟨_, blank.only key found stored⟩) _
  below _ stored := absurd (stores_insert_key.1 stored) blank.not_stores
  exclusive isPublic := absurd (stores_insert_key.1 isPublic) blank.not_stores

/-- A ready database is sound. -/
theorem Ready.sound (ready : Ready table next) : table.Sound where
  keys := by
    rintro ⟨key, value⟩ member
    exact ready.canonical key value (SortedMap.get?_eq_some_iff.2 member)
  initialized := by
    intro version stored
    rw [ready.version] at stored
    cases stored
    have positive := ready.positive
    exact ⟨by decide, next, UInt32.le_iff_toNat_le.2 positive, ready.counter⟩
  handles := by
    intro category number isObject stored
    obtain ⟨positive, given⟩ := ready.below isObject (contains_encode.1 stored)
    exact ⟨UInt32.le_iff_toNat_le.2 positive, next, UInt32.lt_iff_toNat_lt.2 given, ready.counter⟩
  exclusive := by
    rintro number ⟨isPublic, isPrivate⟩
    exact ready.exclusive (contains_encode.1 isPublic) (contains_encode.1 isPrivate)
  uninitialized := by
    intro absent
    rw [ready.version] at absent
    cases absent

/-- A blank database is sound. -/
theorem Blank.sound (blank : Blank table) : table.Sound where
  keys := by
    rintro ⟨key, value⟩ member
    exact .inl ⟨_, blank.only key value (SortedMap.get?_eq_some_iff.2 member)⟩
  initialized := by
    intro version stored
    have same := BlobKey.key_inj.1 (blank.only _ _ stored)
    cases same
  handles := by
    intro category number _ stored
    exact absurd (contains_encode.1 stored) blank.not_stores
  exclusive := by
    rintro number ⟨isPublic, _⟩
    exact blank.not_stores (contains_encode.1 isPublic)
  uninitialized := by
    intro _
    constructor
    · intro category number
      rw [← Bool.not_eq_true, contains_encode]
      exact blank.not_stores
    · cases counter : table.get? MetadataItem.nextHandle.key with
      | none => exact .inl rfl
      | some value =>
        rw [blank.counter value counter]
        exact .inr (by decide)

/-- The number at which the counter stands. A database without one will start with 1. -/
def level (table : Table) : Nat :=
  ((table.get? MetadataItem.nextHandle.key).bind Decimal.parse?).elim 1 UInt32.toNat

/-- The counter of a ready database stands at its number. -/
theorem Ready.level (ready : Ready table next) : table.level = next.toNat := by
  simp [Table.level, ready.counter, Decimal.parse?_render]

/-- A blank database will start with 1. -/
theorem Blank.level (blank : Blank table) : table.level = 1 := by
  unfold Table.level
  cases counter : table.get? MetadataItem.nextHandle.key with
  | none => rfl
  | some value =>
    rw [blank.counter value counter, Option.bind_some, Decimal.parse?_render]
    rfl

/-- Whether a database is ready and its counter has not passed a number. -/
def ReadyUpTo (bound : Nat) (table : Table) : Prop :=
  ∃ next : UInt32, next.toNat ≤ bound ∧ table.Ready next

/-- A ready database is ready up to its own number. -/
theorem Ready.upTo (ready : Ready table next) : table.ReadyUpTo next.toNat :=
  ⟨next, Nat.le_refl _, ready⟩

/-- The counter that has not passed a number has not passed a larger one. -/
theorem ReadyUpTo.mono {bound larger : Nat} (upTo : table.ReadyUpTo bound)
    (le : bound ≤ larger) : table.ReadyUpTo larger := by
  obtain ⟨next, low, ready⟩ := upTo
  exact ⟨next, Nat.le_trans low le, ready⟩

/-- A database that is initialized or is yet to be. -/
def Settled (table : Table) : Prop := table.Blank ∨ ∃ next, table.Ready next

/-- Whether a database is settled and its counter has not passed a number. -/
def SettledUpTo (bound : Nat) (table : Table) : Prop := table.Settled ∧ table.level ≤ bound

/-- A settled database is settled up to its own level. -/
theorem Settled.upTo (settled : table.Settled) : table.SettledUpTo table.level :=
  ⟨settled, Nat.le_refl _⟩

/-- What is ready up to a number is settled up to it. -/
theorem ReadyUpTo.settled {bound : Nat} (upTo : table.ReadyUpTo bound) :
    table.SettledUpTo bound := by
  obtain ⟨next, low, ready⟩ := upTo
  refine ⟨.inr ⟨next, ready⟩, ?_⟩
  rw [ready.level]
  exact low

/-- A settled database is sound. -/
theorem Settled.sound (settled : table.Settled) : table.Sound := by
  rcases settled with blank | ⟨next, ready⟩
  · exact blank.sound
  · exact ready.sound

end Table

end ObjectVault
