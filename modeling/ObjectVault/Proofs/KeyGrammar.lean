import ObjectVault.Proofs.BlobKey

/-!
# The grammar of blob keys

`BlobKey.Spells` says how the key of a blob is spelt: the tag of its category, one separator, and
its number in decimal digits, with or without zeros in front. `BlobKey.decode?_eq_some_iff` says
that these keys are read as those of their blobs and no others. That every other byte string is no
blob key, whatever is the matter with it, and that what was written is read back, follows from it
(`BlobKey.keys_grammatical`).
-/

namespace ObjectVault

namespace Bytes

variable {separator : UInt8} {bytes front back : Bytes}

/-- Exactly what has no separator is not split. -/
theorem splitLast?_eq_none_iff : splitLast? separator bytes = none ↔ separator ∉ bytes := by
  refine ⟨fun unsplit => ?_, splitLast?_eq_none⟩
  induction bytes with
  | nil => simp
  | cons byte rest ih =>
    simp only [splitLast?] at unsplit
    split at unsplit
    · cases unsplit
    · next absent =>
      split at unsplit
      · cases unsplit
      · next differs =>
        rw [List.mem_cons, not_or]
        exact ⟨Ne.symm differs, ih absent⟩

/-- A byte string is split at the last separator in it. -/
theorem splitLast?_eq_some_iff :
    splitLast? separator bytes = some (front, back) ↔
      bytes = front ++ separator :: back ∧ separator ∉ back := by
  constructor
  · intro split
    induction bytes generalizing front with
    | nil => cases split
    | cons byte rest ih =>
      simp only [splitLast?] at split
      split at split
      · next before after found =>
        cases split
        obtain ⟨rfl, absent⟩ := ih found
        exact ⟨rfl, absent⟩
      · next unsplit =>
        split at split
        · next same =>
          subst same
          cases split
          exact ⟨rfl, splitLast?_eq_none_iff.1 unsplit⟩
        · cases split
  · rintro ⟨rfl, absent⟩
    exact splitLast?_append front absent

end Bytes

namespace Utf8

/-- A byte below 128 is a character by itself. -/
theorem unit_of_ascii {byte : UInt8} (ascii : byte < 0x80) (rest : Bytes) :
    unit byte rest = (some (Char.ofNat byte.toNat), 0) := by
  simp [unit, lead?, ascii, follow]

/-- Bytes below 128 are characters one by one. -/
theorem units_of_ascii {bytes : Bytes} (ascii : ∀ byte ∈ bytes, byte < 0x80) :
    units bytes = bytes.map fun byte => some (Char.ofNat byte.toNat) := by
  induction bytes with
  | nil => rfl
  | cons byte rest ih =>
    rw [List.forall_mem_cons] at ascii
    have others : unitsAfter 0 rest = rest.map fun byte => some (Char.ofNat byte.toNat) :=
      ih ascii.2
    simp [units, unitsAfter, unit_of_ascii ascii.1, others]

/-- Bytes below 128 are UTF-8 text. -/
theorem decode?_ne_none_of_ascii {bytes : Bytes} (ascii : ∀ byte ∈ bytes, byte < 0x80) :
    decode? bytes ≠ none := by
  have isText : ∀ bytes : Bytes,
      (bytes.map fun byte => some (Char.ofNat byte.toNat)).mapM id =
        some (bytes.map fun byte => Char.ofNat byte.toNat) := by
    intro bytes
    induction bytes with
    | nil => rfl
    | cons byte rest ih => simp [ih]
  simp [decode?, units_of_ascii ascii, isText]

end Utf8

namespace Category

/-- A category is known by its tag alone. -/
theorem ofTag?_eq_some_iff {tag : Bytes} {category : Category} :
    ofTag? tag = some category ↔ tag = category.tag := by
  constructor
  · intro found
    have same := List.find?_some found
    exact (beq_iff_eq.1 same).symm
  · rintro rfl
    exact ofTag?_tag category

/-- The tags of the categories are such bytes. -/
theorem tag_ascii (category : Category) : ∀ byte ∈ category.tag, byte < 0x80 := by
  cases category <;> decide +kernel

/-- No tag has a separator in it. -/
theorem separator_notMem_tag (category : Category) : BlobKey.separator ∉ category.tag := by
  cases category <;> decide

end Category

namespace Decimal

variable {text : Bytes} {number : Nat}

/-- A numeral has no bytes but digits. -/
theorem Numeral.isDigit (numeral : Numeral text number) {byte : UInt8} (member : byte ∈ text) :
    isDigit byte = true := List.all_eq_true.1 (numeral_iff.1 numeral).2.1 byte member

/-- So it has no separator. -/
theorem Numeral.separator_notMem (numeral : Numeral text number) : BlobKey.separator ∉ text :=
  fun member => ne_of_isDigit (numeral.isDigit member) (by decide) rfl

/-- A numeral consists of bytes below 128. -/
theorem Numeral.ascii (numeral : Numeral text number) : ∀ byte ∈ text, byte < 0x80 := by
  intro byte member
  obtain ⟨place, small, rfl⟩ := isDigit_iff.1 (numeral.isDigit member)
  rw [UInt8.lt_iff_toNat_lt, toNat_digit small]
  show 48 + place < 128
  omega

end Decimal

namespace BlobKey

variable {category : Category} {number : UInt32} {key front back : Bytes}

/-- Whether a key is spelt as that of a blob. The digits may have zeros in front. -/
def Spells (category : Category) (number : UInt32) (key : Bytes) : Prop :=
  ∃ digits, key = category.tag ++ separator :: digits ∧ Decimal.Numeral digits number.toNat

/-- A key is read as that of a blob exactly if it is spelt so. -/
theorem decode?_eq_some_iff :
    decode? key = some (category, number) ↔ Spells category number key := by
  constructor
  · intro decoded
    have isBlob : read key = .blob category number := by
      simp only [decode?] at decoded
      split at decoded
      · next same =>
        cases decoded
        exact same
      · cases decoded
    simp only [read] at isBlob
    split at isBlob
    · cases isBlob
    · next tag digits split =>
      obtain ⟨rfl, _⟩ := Bytes.splitLast?_eq_some_iff.1 split
      split at isBlob
      · cases isBlob
      · next parsed =>
        split at isBlob
        · next known =>
          cases isBlob
          rw [Category.ofTag?_eq_some_iff.1 known]
          exact ⟨digits, rfl, Decimal.parse?_eq_some_iff.1 parsed⟩
        · split at isBlob <;> cases isBlob
  · rintro ⟨digits, rfl, numeral⟩
    have split := Bytes.splitLast?_append category.tag numeral.separator_notMem
    simp [decode?, read, split, Decimal.parse?_eq_some_iff.2 numeral]

/-- Exactly what spells no blob is no blob key. -/
theorem decode?_eq_none_iff :
    decode? key = none ↔ ∀ category number, ¬ Spells category number key := by
  rw [Option.eq_none_iff_forall_ne_some, Prod.forall]
  exact forall_congr' fun category => forall_congr' fun number => not_congr decode?_eq_some_iff

/-- Neither a tag nor a numeral has a separator in it, so there is one way only to split a key. -/
theorem spells_append_iff :
    Spells category number (front ++ separator :: back) ↔
      front = category.tag ∧ Decimal.Numeral back number.toNat := by
  constructor
  · rintro ⟨digits, same, numeral⟩
    have once := congrArg (List.count separator) same
    rw [List.count_append, List.count_append, List.count_cons_self, List.count_cons_self,
      List.count_eq_zero.2 category.separator_notMem_tag,
      List.count_eq_zero.2 numeral.separator_notMem] at once
    have absent : separator ∉ back := List.count_eq_zero.1 (by omega)
    have split := Bytes.splitLast?_append category.tag numeral.separator_notMem
    rw [← same, Bytes.splitLast?_append front absent] at split
    cases split
    exact ⟨rfl, numeral⟩
  · rintro ⟨rfl, numeral⟩
    exact ⟨back, rfl, numeral⟩

/-- What does not end in a numeral of 32 bits, or has something else than a tag in front of it, is
no blob key. -/
theorem decode?_append_eq_none
    (ill : ∀ category (number : UInt32), front = Category.tag category →
      ¬ Decimal.Numeral back number.toNat) :
    decode? (front ++ separator :: back) = none := by
  rw [decode?_eq_none_iff]
  intro category number spells
  obtain ⟨isTag, numeral⟩ := spells_append_iff.1 spells
  exact ill category number isTag numeral

/-- Every blob key is text. -/
theorem Spells.isText (spells : Spells category number key) : Utf8.decode? key ≠ none := by
  obtain ⟨digits, rfl, numeral⟩ := spells
  apply Utf8.decode?_ne_none_of_ascii
  intro byte member
  rcases List.mem_append.1 member with inTag | later
  · exact category.tag_ascii byte inTag
  · rcases List.mem_cons.1 later with rfl | inDigits
    · decide
    · exact numeral.ascii byte inDigits

/-- Whether keys are read as their grammar says. -/
structure Grammatical : Prop where
  /-- The key of a blob is the tag of its category, one separator, and a numeral. -/
  accepts : ∀ key category number,
    decode? key = some (category, number) ↔ Spells category number key
  /-- Any other key is no blob key. -/
  refuses : ∀ key, decode? key = none ↔ ∀ category number, ¬ Spells category number key
  notText : ∀ key, Utf8.decode? key = none → decode? key = none
  unseparated : ∀ key, separator ∉ key → decode? key = none
  empty : ∀ front, decode? (front ++ [separator]) = none
  undigited : ∀ front back byte, byte ∈ back → Decimal.isDigit byte = false →
    decode? (front ++ separator :: back) = none
  signed : ∀ front digits, ∀ sign ∈ Bytes.ofText "+-",
    decode? (front ++ separator :: sign :: digits) = none
  large : ∀ front digits number, Decimal.Numeral digits number → UInt32.size ≤ number →
    decode? (front ++ separator :: digits) = none
  /-- What is in front has to be a tag. -/
  foreign : ∀ front back, (∀ category, front ≠ Category.tag category) →
    decode? (front ++ separator :: back) = none
  /-- So there must be no other separator. -/
  nested : ∀ front back, separator ∈ front → decode? (front ++ separator :: back) = none
  inverse : ∀ category number, decode? (encode category number) = some (category, number)
  injective : ∀ first left second right, encode first left = encode second right →
    first = second ∧ left = right
  metadata : ∀ category number, encode category number ≠ Bytes.ofText "NextBlobID" ∧
    encode category number ≠ Bytes.ofText "DBVersion"

/-- Keys are read as their grammar says. -/
theorem keys_grammatical : Grammatical where
  accepts _ _ _ := decode?_eq_some_iff
  refuses _ := decode?_eq_none_iff
  notText key notText := by
    rw [decode?_eq_none_iff]
    intro category number spells
    exact spells.isText notText
  unseparated key absent := by
    rw [decode?_eq_none_iff]
    rintro category number ⟨digits, rfl, _⟩
    simp at absent
  empty front := by
    apply decode?_append_eq_none
    intro category number _ numeral
    exact (Decimal.numeral_iff.1 numeral).1 rfl
  undigited front back byte member other := by
    apply decode?_append_eq_none
    intro category number _ numeral
    exact Decimal.ne_of_isDigit (numeral.isDigit member) other rfl
  signed front digits sign isSign := by
    apply decode?_append_eq_none
    intro category number _ numeral
    have other : ∀ sign ∈ Bytes.ofText "+-", Decimal.isDigit sign = false := by
      decide +kernel
    exact Decimal.ne_of_isDigit (numeral.isDigit (.head _)) (other sign isSign) rfl
  large front digits number numeral large := by
    apply decode?_append_eq_none
    intro category found _ isSmall
    have same := numeral.unique isSmall
    have bounded : found.toNat < UInt32.size := found.toNat_lt
    omega
  foreign front back isForeign := by
    apply decode?_append_eq_none
    intro category number isTag
    exact absurd isTag (isForeign category)
  nested front back member := by
    apply decode?_append_eq_none
    rintro category number rfl
    exact absurd member category.separator_notMem_tag
  inverse := decode?_encode
  injective _ _ _ _ := encode_inj.1
  metadata category number :=
    ⟨encode_ne_key category number .nextHandle, encode_ne_key category number .formatVersion⟩

/-- Zeros in front are accepted in a key, but never written. -/
example : decode? (Bytes.ofText "PublicBlob&007") = some (.publicObject, 7) ∧
    encode .publicObject 7 = Bytes.ofText "PublicBlob&7" := by decide

end BlobKey

end ObjectVault
