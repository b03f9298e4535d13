import ObjectVault.Proofs.KeyGrammar
import ObjectVault.Proofs.Removal
import ObjectVault.Proofs.Repetition

/-!
# Zeros in front of the number in a key

The number in a key is written without zeros in front and read with any number of them. So the keys
of a blob are the one that is written for it and those that have zeros in front of the number
(`BlobKey.decode?_eq_some_iff_padded`). A load finds objects under all of these keys and shows the
one with the fewest zeros (`Table.get?_objects_iff_fewest`), but a deletion removes only the key
that is written. `Lifetime.keys_padded` says what this comes to: on a database whose blobs are all
under the keys that are written for them, nothing that is loaded is shadowed, and what is deleted is
gone; on any other, the object that was loaded may be left.
-/

namespace ObjectVault

open Exchange

/-- Byte strings are told apart behind what they have in common. -/
theorem Bytes.compare_append (front first second : Bytes) :
    compare (front ++ first) (front ++ second) = compare first second := by
  induction front with
  | nil => rfl
  | cons byte rest ih =>
    rw [List.compare_eq_compareLex] at ih ⊢
    rw [List.cons_append, List.cons_append, List.compareLex_cons_cons, ih,
      Std.ReflOrd.compare_self]
    rfl

namespace BlobKey

variable {category : Category} {number : UInt32} {key : Bytes} {zeros : Nat}

/-- The key of a blob with zeros in front of the number. -/
def padded (category : Category) (number : UInt32) (zeros : Nat) : Bytes :=
  category.tag ++
    separator :: (List.replicate zeros (Decimal.digit 0) ++ Decimal.render number.toNat)

/-- A key is read as that of a blob exactly if it is the one that is written for it, with any number
of zeros in front of the number. -/
theorem decode?_eq_some_iff_padded :
    decode? key = some (category, number) ↔ ∃ zeros, key = padded category number zeros := by
  rw [decode?_eq_some_iff]
  constructor
  · rintro ⟨digits, rfl, numeral⟩
    obtain ⟨zeros, rfl⟩ := Decimal.numeral_iff_zeros.1 numeral
    exact ⟨zeros, rfl⟩
  · rintro ⟨zeros, rfl⟩
    exact ⟨_, rfl, Decimal.numeral_iff_zeros.2 ⟨zeros, rfl⟩⟩

@[simp] theorem decode?_padded : decode? (padded category number zeros) = some (category, number) :=
  decode?_eq_some_iff_padded.2 ⟨zeros, rfl⟩

/-- Every zero in front makes a key one byte longer. -/
theorem length_padded : (padded category number zeros).length =
    (encode category number).length + zeros := by
  simp only [padded, encode, List.length_append, List.length_cons, List.length_replicate]
  omega

/-- The key that is written is the one without zeros in front. -/
theorem padded_eq_encode_iff :
    padded category number zeros = encode category number ↔ zeros = 0 := by
  constructor
  · intro same
    have lengths := congrArg List.length same
    rw [length_padded] at lengths
    omega
  · rintro rfl
    rfl

/-- Of two keys of a positive number, the one with fewer zeros comes later. -/
theorem compare_padded (positive : number ≠ 0) {fewer more : Nat} (less : fewer < more) :
    compare (padded category number more) (padded category number fewer) = .lt := by
  obtain ⟨others, rfl⟩ : ∃ others, more = fewer + (others + 1) := ⟨more - fewer - 1, by omega⟩
  have split (zeros : Nat) : padded category number (fewer + zeros) =
      (category.tag ++ separator :: List.replicate fewer (Decimal.digit 0)) ++
        (List.replicate zeros (Decimal.digit 0) ++ Decimal.render number.toNat) := by
    simp [padded, ← List.replicate_append_replicate]
  have isPositive : 0 < number.toNat := by
    rw [Nat.pos_iff_ne_zero]
    exact fun isZero => positive (UInt32.toNat_inj.1 isZero)
  obtain ⟨place, rest, placePositive, placeSmall, digits⟩ := Decimal.render_eq_cons isPositive
  have digitLess : compare (Decimal.digit 0) (Decimal.digit place) = .lt := by
    refine compareOfLessAndEq_eq_lt.2 ?_
    rw [UInt8.lt_iff_toNat_lt, Decimal.toNat_digit (by omega), Decimal.toNat_digit placeSmall]
    omega
  have without := split 0
  rw [Nat.add_zero] at without
  rw [split, without, Bytes.compare_append, digits, List.compare_eq_compareLex]
  exact (List.compareLex_cons_cons).trans (by rw [digitLess]; rfl)

/-- Of two keys of a positive number, the one that does not come before the other has no more
zeros. -/
theorem compare_padded_ne_lt_iff (positive : number ≠ 0) {left right : Nat} :
    compare (padded category number left) (padded category number right) ≠ .lt ↔ left ≤ right := by
  constructor
  · intro notBefore
    refine Nat.le_of_not_lt fun less => notBefore (compare_padded positive less)
  · intro le
    rcases Nat.lt_or_eq_of_le le with less | rfl
    · rw [Std.OrientedCmp.gt_of_lt (compare_padded positive less)]
      nofun
    · rw [Std.ReflOrd.compare_self]
      nofun

end BlobKey

namespace Table

variable {table : Table} {suite : Suite} {master : Option SealingKey} {isPrivate : Bool}
  {handle : Handle} {object : Blob} {key : Bytes}

/-- Whether the object that a load shows for a handle is the one under a key. -/
structure Shows (table : Table) (suite : Suite) (master : Option SealingKey) (isPrivate : Bool)
    (key : Bytes) (handle : Handle) (object : Blob) : Prop where
  reads : table.Reads suite master isPrivate key handle object
  /-- No later key of the handle can be read. -/
  last : ∀ later other, table.Reads suite master isPrivate later handle other →
    compare key later ≠ .lt

/-- Whatever is shown is shown from a key. -/
theorem get?_objects_iff_shows :
    (table.objects suite master (.ofPrivacy isPrivate)).get? handle = some object ↔
      ∃ key, table.Shows suite master isPrivate key handle object := by
  rw [get?_objects_iff_last]
  exact exists_congr fun key =>
    ⟨fun ⟨reads, last⟩ => ⟨reads, last⟩, fun ⟨reads, last⟩ => ⟨reads, last⟩⟩

/-- Of the keys of a positive number, the one with the fewest zeros is shown. -/
theorem get?_objects_iff_fewest (positive : handle.number ≠ 0) :
    (table.objects suite master (.ofPrivacy isPrivate)).get? handle = some object ↔
      ∃ zeros,
        table.Reads suite master isPrivate
          (BlobKey.padded (.ofPrivacy isPrivate) handle.number zeros) handle object ∧
        ∀ others another, table.Reads suite master isPrivate
          (BlobKey.padded (.ofPrivacy isPrivate) handle.number others) handle another →
            zeros ≤ others := by
  rw [get?_objects_iff_shows]
  constructor
  · rintro ⟨key, reads, last⟩
    obtain ⟨zeros, rfl⟩ := BlobKey.decode?_eq_some_iff_padded.1 reads.named
    exact ⟨zeros, reads, fun others another alsoReads =>
      (BlobKey.compare_padded_ne_lt_iff positive).1 (last _ another alsoReads)⟩
  · rintro ⟨zeros, reads, fewest⟩
    refine ⟨_, reads, fun later another alsoReads => ?_⟩
    obtain ⟨others, rfl⟩ := BlobKey.decode?_eq_some_iff_padded.1 alsoReads.named
    exact (BlobKey.compare_padded_ne_lt_iff positive).2 (fewest others another alsoReads)

/-- Where blobs are under the keys that are written for them, every object that can be read is
shown. -/
theorem CanonicalBlobs.get?_objects (canonical : table.CanonicalBlobs)
    (reads : table.Reads suite master isPrivate key handle object) :
    (table.objects suite master (.ofPrivacy isPrivate)).get? handle = some object := by
  refine get?_objects_iff_shows.2 ⟨key, reads, fun later other alsoReads => ?_⟩
  obtain ⟨_, stored, _⟩ := reads.opened
  obtain ⟨_, alsoStored, _⟩ := alsoReads.opened
  rw [canonical key _ _ _ stored reads.named, canonical later _ _ _ alsoStored alsoReads.named,
    Std.ReflOrd.compare_self]
  nofun

/-- Where blobs are under the keys that are written for them, a blob is under one key. -/
theorem CanonicalBlobs.eq_of_decode? (canonical : table.CanonicalBlobs) {first second : Bytes}
    (isStored : table.contains first = true) (alsoStored : table.contains second = true)
    {category : Category} {number : UInt32}
    (named : BlobKey.decode? first = some (category, number))
    (alsoNamed : BlobKey.decode? second = some (category, number)) : first = second := by
  obtain ⟨_, stored⟩ := Option.isSome_iff_exists.1 isStored
  obtain ⟨_, others⟩ := Option.isSome_iff_exists.1 alsoStored
  rw [canonical first _ _ _ stored named, canonical second _ _ _ others alsoNamed]

/-- What becomes of the object that is shown for a handle if the handle is deleted. -/
structure Deletes (suite : Suite) (master : Option SealingKey) (isPrivate : Bool) (handle : Handle)
    (before after : Table) : Prop where
  /-- The key is removed that is written for the object, and nothing else. -/
  removed : after = before.erase (BlobKey.encode (.ofPrivacy isPrivate) handle.number)
  gone : ∀ key object, before.Shows suite master isPrivate key handle object →
    (after.get? key = none ↔ key = BlobKey.encode (.ofPrivacy isPrivate) handle.number)
  left : ∀ key object, before.Shows suite master isPrivate key handle object →
    key ≠ BlobKey.encode (.ofPrivacy isPrivate) handle.number →
      after.Shows suite master isPrivate key handle object
  /-- If all blobs were under the keys that are written for them, nothing is shown any more. -/
  unlisted : before.CanonicalBlobs →
    handle ∉ (after.objects suite master (.ofPrivacy isPrivate)).keys

/-- A deletion removes the key that is written, and so may leave what is shown. -/
theorem deletes_erase (table : Table) (suite : Suite) (master : Option SealingKey)
    (isPrivate : Bool) (handle : Handle) :
    Deletes suite master isPrivate handle table
      (table.erase (BlobKey.encode (.ofPrivacy isPrivate) handle.number)) where
  removed := rfl
  gone key object shows := by
    obtain ⟨_, stored, _⟩ := shows.reads.opened
    constructor
    · intro absent
      refine Decidable.byContradiction fun differs => ?_
      rw [SortedMap.get?_erase_of_ne table differs, stored] at absent
      cases absent
    · rintro rfl
      exact SortedMap.get?_erase_self table _
  left key object shows differs := by
    obtain ⟨⟨named, value, stored, opened⟩, last⟩ := shows
    refine ⟨⟨named, value, ?_, opened⟩, fun later other ⟨alsoNamed, found, alsoStored, opens⟩ => ?_⟩
    · rw [SortedMap.get?_erase_of_ne table differs]
      exact stored
    · exact last later other ⟨alsoNamed, found, (SortedMap.of_get?_erase alsoStored).2, opens⟩
  unlisted canonical := canonical.notMem_keys_erase

end Table

/-- The call that loads the objects of a privacy. -/
def Vault.Operation.loading : (isPrivate : Bool) → Operation
  | false => .loadPublic
  | true => .loadPrivate

namespace Lifetime

/-- A load that is answered shows the objects in the database, and their category is known then. -/
theorem Going.loaded {setting : Setting} {before after : Standing} {isPrivate : Bool}
    {exchanges : List Exchange} {answer : Vault.Answer} {table : Table}
    (truthful : AllTruthful exchanges table)
    (going : Going setting before (.operate (.loading isPrivate)) exchanges
      (.answer (.done answer)) after) :
    ∃ memory, before = .working memory ∧ afterAll exchanges table = table ∧
      answer = .objects (table.objects setting.suite memory.masterKey (.ofPrivacy isPrivate)) ∧
      after = .working (Content.loading ⟨table, memory⟩ setting.suite
        (.ofPrivacy isPrivate)).memory := by
  generalize outcome : Ending.done answer = ending at going
  have loads {memory later : Memory} {ending : Ending (SortedMap Handle Blob)}
      (loading : Session.Loading setting.suite (.ofPrivacy isPrivate) memory exchanges ending later)
      (done : Ending.done answer = ending.map .objects) :
      afterAll exchanges table = table ∧
        answer = .objects (table.objects setting.suite memory.masterKey (.ofPrivacy isPrivate)) ∧
        later = (Content.loading ⟨table, memory⟩ setting.suite (.ofPrivacy isPrivate)).memory := by
    let content : Content := ⟨table, memory⟩
    have met : AllTruthful exchanges content.table := truthful
    have mindful : Session.Loading setting.suite (.ofPrivacy isPrivate) content.memory exchanges
      ending later := loading
    rcases Ground.leads_of_loading met mindful with ⟨rfl, same⟩ | ⟨_, failing, _⟩
    · obtain ⟨unchanged, remembered⟩ := Content.mk.inj same
      exact ⟨unchanged.symm, Ending.done.inj done, remembered.symm⟩
    · obtain ⟨objects, isDone, _⟩ := Ending.map_eq_done.1 done.symm
      exact absurd isDone (failing objects)
  cases going with
  | refused => cases outcome
  | @performed memory _ _ _ later performing =>
    refine ⟨memory, rfl, ?_⟩
    rw [← outcome]
    cases isPrivate with
    | false =>
      cases performing with
      | loadPublic loading =>
        obtain ⟨unchanged, answered, rfl⟩ := loads loading outcome
        exact ⟨unchanged, answered, rfl⟩
    | true =>
      cases performing with
      | loadPrivate loading =>
        cases loading with
        | keyless => cases outcome
        | keyed _ loading =>
          obtain ⟨unchanged, answered, rfl⟩ := loads loading outcome
          exact ⟨unchanged, answered, rfl⟩

/-- How zeros in front of a number keep a load and a deletion apart. -/
structure Padded (setting : Setting) : Prop where
  /-- The keys that are read as that of a blob are those with zeros in front of its number. -/
  accepts (key : Bytes) (category : Category) (number : UInt32) :
    BlobKey.decode? key = some (category, number) ↔
      ∃ zeros, key = BlobKey.padded category number zeros
  written (category : Category) (number : UInt32) (zeros : Nat) :
    BlobKey.padded category number zeros = BlobKey.encode category number ↔ zeros = 0
  single (table : Table) : table.CanonicalBlobs → ∀ first second named,
    table.contains first = true → table.contains second = true →
      BlobKey.decode? first = some named → BlobKey.decode? second = some named → first = second
  /-- Of the keys of a handle that can be read, the one with the fewest zeros is shown. -/
  foremost (table : Table) (master : Option SealingKey) (isPrivate : Bool) (handle : Handle)
    (object : Blob) : handle.number ≠ 0 →
    ((table.objects setting.suite master (.ofPrivacy isPrivate)).get? handle = some object ↔
      ∃ zeros,
        table.Reads setting.suite master isPrivate
          (BlobKey.padded (.ofPrivacy isPrivate) handle.number zeros) handle object ∧
        ∀ others another, table.Reads setting.suite master isPrivate
          (BlobKey.padded (.ofPrivacy isPrivate) handle.number others) handle another →
            zeros ≤ others)
  /-- Where blobs are under the keys that are written for them, all that can be read is shown. -/
  shown (table : Table) (master : Option SealingKey) (isPrivate : Bool) (key : Bytes)
    (handle : Handle) (object : Blob) :
    table.CanonicalBlobs → table.Reads setting.suite master isPrivate key handle object →
      (table.objects setting.suite master (.ofPrivacy isPrivate)).get? handle = some object
  /-- If a handle is deleted that has just been loaded, the key is removed that is written for
  it. -/
  deleted (before : Situation) (isPrivate : Bool) (handle : Handle)
    (objects : SortedMap Handle Blob) :
    let loading := take setting (.operate (.loading isPrivate)) before
    let deleting := take setting (.operate (.delete handle)) loading.after
    loading.outcome = .answer (.done (.objects objects)) → handle ∈ objects.keys →
      deleting.outcome = .answer (.done .nothing) →
        ∃ memory, before.standing = .working memory ∧
          objects = before.table.objects setting.suite memory.masterKey (.ofPrivacy isPrivate) ∧
          Table.Deletes setting.suite memory.masterKey isPrivate handle before.table
            deleting.after.table

/-- The deletion of a handle that has just been loaded removes the key that is written for it in the
category in which it was loaded. -/
theorem deletes_of_loaded (setting : Setting) {before : Situation} {isPrivate : Bool}
    {handle : Handle} {objects : SortedMap Handle Blob} :
    let loading := take setting (.operate (.loading isPrivate)) before
    let deleting := take setting (.operate (.delete handle)) loading.after
    loading.outcome = .answer (.done (.objects objects)) → handle ∈ objects.keys →
      deleting.outcome = .answer (.done .nothing) →
        ∃ memory, before.standing = .working memory ∧
          objects = before.table.objects setting.suite memory.masterKey (.ofPrivacy isPrivate) ∧
          Table.Deletes setting.suite memory.masterKey isPrivate handle before.table
            deleting.after.table := by
  intro loading deleting answered listed alsoAnswered
  obtain ⟨exchanges, yields, history, going⟩ :=
    take_going setting (.operate (.loading isPrivate)) before
  rw [answered] at going
  obtain ⟨memory, working, unchanged, isSeen, knows⟩ := going.loaded yields.truthful
  obtain ⟨others, _, later, goingOn⟩ :=
    take_going setting (.operate (.delete handle)) loading.after
  rw [alsoAnswered, knows] at goingOn
  obtain ⟨_, isWorking, _, removed⟩ := goingOn.deleted
  cases isWorking
  cases isSeen
  have same : loading.after.table = before.table :=
    (table_of_making history).trans unchanged
  have category : (Content.loading ⟨before.history.table, memory⟩ setting.suite
      (.ofPrivacy isPrivate)).memory.categoryOf handle = .ofPrivacy isPrivate :=
    Content.categoryOf_loading _ _ (SortedMap.contains_iff.2 listed)
  have left := table_of_making later
  rw [removed, category, same] at left
  refine ⟨memory, working, rfl, ?_⟩
  change Table.Deletes _ _ _ _ _ (take setting _ loading.after).after.table
  rw [left]
  exact Table.deletes_erase _ _ _ _ _

/-- Keys that differ in the zeros in front of the number are those of one blob, and of these one is
shown and one is deleted. They are the same if blobs are under the keys that are written for them,
or if just the object that is shown is. -/
theorem keys_padded (setting : Setting) : Padded setting where
  accepts _ _ _ := BlobKey.decode?_eq_some_iff_padded
  written _ _ _ := BlobKey.padded_eq_encode_iff
  single _ canonical _ _ _ isStored alsoStored := canonical.eq_of_decode? isStored alsoStored
  foremost _ _ _ _ _ positive := Table.get?_objects_iff_fewest positive
  shown _ _ _ _ _ _ canonical reads := canonical.get?_objects reads
  deleted _ _ _ _ := deletes_of_loaded setting

/-- A key that is read need not be one that is written. -/
theorem decoded_not_encoded :
    ¬ ∀ key category number, BlobKey.decode? key = some (category, number) →
      BlobKey.encode category number = key := by
  intro inverse
  have same := inverse (Bytes.ofText "PublicBlob&007") .publicObject 7 (by decide)
  revert same
  decide

namespace Padding

/-- A setting in which nothing goes wrong. -/
def setting : Setting := ⟨Vault.Loading.suite, .memory, true, .absent⟩

/-- A database with an object under a key that no vault writes. -/
def table : Table := .ofList [(Bytes.ofText "PublicBlob&007", Vault.Loading.envelope [1])]

/-- A vault that is open on it. -/
def situation : Situation :=
  .opened { session := ⟨⟨{}, { history := ⟨table, []⟩ }⟩, ⟨fun _ => .counting 0, 0⟩, none, ∅⟩ }

end Padding

/-- An object is loaded, its deletion is answered, and it is loaded as before. -/
theorem keys_padded_left :
    let loading := take Padding.setting (.operate (.loading false)) Padding.situation
    let deleting := take Padding.setting (.operate (.delete ⟨7⟩)) loading.after
    let objects : SortedMap Handle Blob := .ofList [(⟨7⟩, ⟨false, [1]⟩)]
    loading.outcome = .answer (.done (.objects objects)) ∧
      deleting.outcome = .answer (.done .nothing) ∧
      deleting.after.table = Padding.table.erase (BlobKey.encode .publicObject 7) ∧
      deleting.after.table.Shows Padding.setting.suite none false (Bytes.ofText "PublicBlob&007")
        ⟨7⟩ ⟨false, [1]⟩ := by
  intro loading deleting objects
  have answered : loading.outcome = .answer (.done (.objects objects)) := by rfl
  have alsoAnswered : deleting.outcome = .answer (.done .nothing) := by rfl
  obtain ⟨_, ⟨⟩, _, deletes⟩ := (keys_padded Padding.setting).deleted Padding.situation false ⟨7⟩
    objects answered (by decide) alsoAnswered
  have shows : Padding.table.Shows Padding.setting.suite none false
      (Bytes.ofText "PublicBlob&007") ⟨7⟩ ⟨false, [1]⟩ := by
    have isSeen : (Padding.table.objects Padding.setting.suite none (.ofPrivacy false)).get? ⟨7⟩ =
        some ⟨false, [1]⟩ := by decide
    obtain ⟨key, shows⟩ := Table.get?_objects_iff_shows.1 isSeen
    obtain ⟨_, stored, _⟩ := shows.reads.opened
    have member := SortedMap.get?_eq_some_iff.1 stored
    cases List.mem_singleton.1 member
    exact shows
  exact ⟨answered, alsoAnswered, deletes.removed, deletes.left _ _ shows (by decide)⟩

end Lifetime

end ObjectVault
