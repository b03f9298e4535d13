import ObjectVault.Proofs.Hex
import ObjectVault.Proofs.KeyGrammar

/-!
# Numbers in text that is shown

A stored number is looked at as text, in which what is no UTF-8 is shown as U+FFFD. This neither
makes a numeral of other bytes nor spoils one (`Decimal.parse?_lossy`): ASCII bytes are shown as
they are, and any other byte is shown as, or in, a character that is not ASCII.
-/

namespace ObjectVault

namespace Utf8

/-- The bits with those of one more byte. -/
@[irreducible]
def adjoin (bits : Nat) (byte : UInt8) : Nat := 64 * bits + (byte.toNat - 0x80)

/-- The code point of a unit, by the bits of its leading byte and the other bytes. -/
def point (bits : Nat) : Bytes → Nat
  | [] => bits
  | byte :: rest => point (adjoin bits byte) rest

/-- More bits in front make a larger number. -/
theorem adjoin_mono {bits more : Nat} (le : bits ≤ more) {low high : UInt8} (within : low ≤ high) :
    adjoin bits low ≤ adjoin more high := by
  have bound : low.toNat ≤ high.toNat := within
  unfold adjoin
  omega

/-- With larger bits, a unit has a larger code point. -/
theorem point_mono {bits more : Nat} (le : bits ≤ more) (bytes : Bytes) :
    point bits bytes ≤ point more bytes := by
  induction bytes generalizing bits more with
  | nil => exact le
  | cons byte rest ih => exact ih (adjoin_mono le (UInt8.le_refl byte))

theorem follow_cons (bits : Nat) (range : UInt8 × UInt8) (ranges : List (UInt8 × UInt8))
    (byte : UInt8) (rest : Bytes) :
    (follow bits (range :: ranges) (byte :: rest)).1 =
      if range.1 ≤ byte ∧ byte ≤ range.2 then (follow (adjoin bits byte) ranges rest).1
      else none := by
  unfold adjoin
  rw [follow]
  split <;> rfl

/-- The code point of a unit is between those of the least and of the greatest bytes that it may
have. -/
theorem follow_bounds {bits : Nat} {ranges : List (UInt8 × UInt8)} {rest : Bytes} {found : Nat}
    (isWhole : (follow bits ranges rest).1 = some found) :
    point bits (ranges.map Prod.fst) ≤ found ∧ found ≤ point bits (ranges.map Prod.snd) := by
  induction ranges generalizing bits rest with
  | nil =>
    cases isWhole
    exact ⟨Nat.le_refl _, Nat.le_refl _⟩
  | cons range ranges ih =>
    cases rest with
    | nil => cases isWhole
    | cons byte rest =>
      rw [follow_cons] at isWhole
      split at isWhole
      · next within =>
        obtain ⟨low, high⟩ := ih isWhole
        exact ⟨Nat.le_trans (point_mono (adjoin_mono (Nat.le_refl _) within.1) _) low,
          Nat.le_trans high (point_mono (adjoin_mono (Nat.le_refl _) within.2) _)⟩
      · cases isWhole

/-- The units that begin with a larger byte have the code points of characters that are not
ASCII. -/
theorem lead?_bounds {byte : UInt8} {bits : Nat} {ranges : List (UInt8 × UInt8)}
    (large : 0x80 ≤ byte) (leads : lead? byte = some (bits, ranges)) :
    0x80 ≤ point bits (ranges.map Prod.fst) ∧
      (point bits (ranges.map Prod.snd) < 0xD800 ∨
        0xDFFF < point bits (ranges.map Prod.fst) ∧
          point bits (ranges.map Prod.snd) < 0x110000) := by
  have checked : ∀ number : Fin 256, 0x80 ≤ number.val → ∀ unit ∈ lead? (UInt8.ofNat number),
      0x80 ≤ point unit.1 (unit.2.map Prod.fst) ∧
        (point unit.1 (unit.2.map Prod.snd) < 0xD800 ∨
          0xDFFF < point unit.1 (unit.2.map Prod.fst) ∧
            point unit.1 (unit.2.map Prod.snd) < 0x110000) := by
    decide +kernel
  rw [← UInt8.ofNat_toNat (x := byte)] at leads
  exact checked ⟨byte.toNat, byte.toNat_lt⟩ large (bits, ranges) leads

/-- A character that starts with a byte from 128 on is not below 128 either. -/
theorem toNat_of_unit {byte : UInt8} {rest : Bytes} {char : Char} (large : 0x80 ≤ byte)
    (isChar : (unit byte rest).1 = some char) : 0x80 ≤ char.toNat := by
  unfold unit at isChar
  split at isChar
  · cases isChar
  · next bits ranges leads =>
    obtain ⟨found, isWhole, rfl⟩ := Option.map_eq_some_iff.1 isChar
    obtain ⟨low, high⟩ := follow_bounds isWhole
    obtain ⟨notAscii, isScalar⟩ := lead?_bounds large leads
    have valid : found.isValidChar := by
      unfold Nat.isValidChar
      omega
    have same : (Char.ofNat found).toNat = found := by
      rw [Char.ofNat, dif_pos valid]
      rfl
    omega

/-- A byte that is not ASCII is shown in a character that is not. -/
theorem exists_char_of_mem {bytes : Bytes} {byte : UInt8} (member : byte ∈ bytes)
    (large : 0x80 ≤ byte) : ∃ char ∈ (units bytes).map (·.getD '\uFFFD'), 0x80 ≤ char.toNat := by
  induction bytes with
  | nil => cases member
  | cons first rest ih =>
    by_cases ascii : first < 0x80
    · -- An ASCII byte is a unit by itself, and the byte is in one of the others.
      have later : byte ∈ rest := by
        rcases List.mem_cons.1 member with rfl | later
        · exact absurd large (UInt8.not_le.2 ascii)
        · exact later
      obtain ⟨char, shown, isLarge⟩ := ih later
      refine ⟨char, ?_, isLarge⟩
      rw [units, unitsAfter, unit_of_ascii ascii, List.map_cons]
      exact .tail _ shown
    · have isLarge : 0x80 ≤ first := UInt8.not_lt.1 ascii
      rw [units, unitsAfter, List.map_cons]
      refine ⟨_, .head _, ?_⟩
      cases isChar : (unit first rest).1 with
      | none => decide
      | some char => exact toNat_of_unit isLarge isChar

/-- ASCII bytes are shown as they are. -/
theorem ofText_lossy {bytes : Bytes} (ascii : ∀ byte ∈ bytes, byte < 0x80) :
    Bytes.ofText (lossy bytes) = bytes := by
  have checked : ∀ number : Fin 128,
      String.utf8EncodeChar (Char.ofNat number.val) = [UInt8.ofNat number.val] := by
    decide +kernel
  rw [lossy, units_of_ascii ascii, Bytes.ofText_ofList, List.map_map, List.flatMap_map]
  induction bytes with
  | nil => rfl
  | cons byte rest ih =>
    rw [List.forall_mem_cons] at ascii
    have single := checked ⟨byte.toNat, ascii.1⟩
    rw [UInt8.ofNat_toNat] at single
    rw [List.flatMap_cons, ih ascii.2]
    exact congrArg (· ++ rest) single

end Utf8

namespace Decimal

/-- A number is read from bytes as it is from the text that is shown for them. -/
theorem parse?_lossy (raw : Bytes) : parse? (Bytes.ofText (Utf8.lossy raw)) = parse? raw := by
  by_cases ascii : ∀ byte ∈ raw, byte < 0x80
  · rw [Utf8.ofText_lossy ascii]
  · -- Neither the bytes nor the text are digits only.
    have unread {text : Bytes} (notAscii : ¬ ∀ byte ∈ text, byte < 0x80) :
        parse? text = none := by
      rw [Option.eq_none_iff_forall_ne_some]
      intro number read
      exact notAscii (parse?_eq_some_iff.1 read).ascii
    rw [unread ascii]
    refine unread fun textAscii => ascii fun byte member => ?_
    refine Decidable.byContradiction fun large => ?_
    obtain ⟨char, shown, isLarge⟩ := Utf8.exists_char_of_mem member (UInt8.not_lt.1 large)
    obtain ⟨first, inside⟩ :=
      List.exists_mem_of_ne_nil _ (String.utf8EncodeChar_ne_nil (c := char))
    have low := textAscii first (by
      rw [Utf8.lossy, Bytes.ofText_ofList]
      exact List.mem_flatMap.2 ⟨char, shown, inside⟩)
    have small := (Bytes.encodeChar_of_lt inside low).1
    omega

end Decimal

end ObjectVault
