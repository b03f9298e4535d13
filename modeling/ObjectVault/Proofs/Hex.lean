import ObjectVault.Hex

/-!
# Hexadecimal texts read and written

A text that can be read as bytes is written again as the same text in lower case
(`Hex.encode_of_decode`). Only an ASCII character has a byte below 128 in its encoding, so that a
text of digits has one byte for each of its characters.
-/

namespace ObjectVault

namespace Bytes

/-- The encoding of a text is made of those of its characters. -/
theorem ofText_ofList (chars : List Char) :
    ofText (String.ofList chars) = chars.flatMap String.utf8EncodeChar := by
  rw [ofText, String.toUTF8, String.toByteArray_ofList, List.utf8Encode,
    List.toList_data_toByteArray]

/-- A character with a byte below 128 in its encoding is encoded by that byte alone. -/
theorem encodeChar_of_lt {char : Char} {byte : UInt8}
    (member : byte ∈ String.utf8EncodeChar char) (low : byte.toNat < 128) :
    char.toNat < 128 ∧ String.utf8EncodeChar char = [UInt8.ofNat char.toNat] := by
  dsimp only [String.utf8EncodeChar] at member ⊢
  split at member
  · next ascii =>
    rw [if_pos ascii]
    exact ⟨Nat.lt_succ_of_le ascii, rfl⟩
  · exfalso
    split at member
    · simp only [List.mem_cons, List.not_mem_nil, or_false] at member
      rcases member with rfl | rfl <;> simp only [UInt8.toNat_ofNat'] at low <;> omega
    · split at member <;> simp only [List.mem_cons, List.not_mem_nil, or_false] at member
      · rcases member with rfl | rfl | rfl <;> simp only [UInt8.toNat_ofNat'] at low <;> omega
      · rcases member with rfl | rfl | rfl | rfl <;> simp only [UInt8.toNat_ofNat'] at low <;>
          omega

end Bytes

namespace Hex

/-- A digit is an ASCII character, and is the digit of its value in lower case. -/
theorem digit_of_digitValue? {number : Nat} {value : UInt8} (byte : number < 256)
    (isDigit : digitValue? (UInt8.ofNat number) = some value) :
    number < 128 ∧ value.toNat < 16 ∧ digit value.toNat = (Char.ofNat number).toLower := by
  have checked : ∀ number : Fin 256, ∀ value, digitValue? (UInt8.ofNat number) = some value →
      number.val < 128 ∧ value.toNat < 16 ∧
        digit value.toNat = (Char.ofNat number).toLower := by
    decide +kernel
  exact checked ⟨number, byte⟩ value isDigit

/-- Every byte of a text that can be read is a digit. -/
theorem exists_value_of_mem {text bytes : Bytes} {index : Nat}
    (decodes : decodeFrom index text = .ok bytes) :
    ∀ byte ∈ text, ∃ value, digitValue? byte = some value := by
  fun_induction decodeFrom index text generalizing bytes with
  | case1 => exact fun _ member => nomatch member
  | case2 => cases decodes
  | case3 => cases decodes
  | case4 => cases decodes
  | case5 index high low rest upper lower isLow isHigh ih =>
    cases others : decodeFrom (index + 2) rest with
    | error fault =>
      rw [others] at decodes
      cases decodes
    | ok more =>
      simp only [List.forall_mem_cons]
      exact ⟨⟨upper, isHigh⟩, ⟨lower, isLow⟩, ih others⟩

/-- What is read from two digits is written with both in lower case. -/
theorem digits_of_values {upper lower : UInt8} (high : upper.toNat < 16) (low : lower.toNat < 16) :
    (16 * upper + lower).toNat / 16 = upper.toNat ∧
      (16 * upper + lower).toNat % 16 = lower.toNat := by
  have value : (16 * upper + lower).toNat = 16 * upper.toNat + lower.toNat := by
    simp only [UInt8.toNat_add, UInt8.toNat_mul, UInt8.reduceToNat]
    omega
  omega

/-- What is read from ASCII characters is written in lower case. -/
theorem flatMap_of_decodeFrom : ∀ (chars : List Char) (index : Nat) (bytes : Bytes),
    (∀ char ∈ chars, char.toNat < 128) →
    decodeFrom index (chars.map fun char => UInt8.ofNat char.toNat) = .ok bytes →
      bytes.flatMap (fun byte => [digit (byte.toNat / 16), digit (byte.toNat % 16)]) =
        chars.map Char.toLower
  | [], _, bytes, _, decodes => by
    cases decodes
    rfl
  | [_], _, _, _, decodes => nomatch decodes
  | first :: second :: rest, index, bytes, ascii, decodes => by
    simp only [List.forall_mem_cons] at ascii
    simp only [List.map_cons, decodeFrom] at decodes
    split at decodes
    · cases decodes
    · cases decodes
    · next upper lower isHigh isLow =>
      cases others : decodeFrom (index + 2) (rest.map fun char => UInt8.ofNat char.toNat) with
      | error fault =>
        rw [others] at decodes
        cases decodes
      | ok more =>
        rw [others] at decodes
        cases decodes
        obtain ⟨_, high, firstDigit⟩ := digit_of_digitValue? (by omega) isHigh
        obtain ⟨_, low, secondDigit⟩ := digit_of_digitValue? (by omega) isLow
        obtain ⟨quotient, remainder⟩ := digits_of_values high low
        rw [List.flatMap_cons, quotient, remainder, firstDigit, secondDigit, Char.ofNat_toNat,
          Char.ofNat_toNat, flatMap_of_decodeFrom rest (index + 2) more ascii.2.2 others]
        rfl

/-- A text that can be read is written again in lower case. -/
theorem encode_of_decode {text : String} {bytes : Bytes}
    (decodes : decode (Bytes.ofText text) = .ok bytes) : encode bytes = text.toLower := by
  simp only [decode] at decodes
  split at decodes
  · cases decodes
  · have encoded := Bytes.ofText_ofList text.toList
    rw [String.ofList_toList] at encoded
    rw [encoded] at decodes
    have ascii : ∀ char ∈ text.toList, char.toNat < 128 ∧
        String.utf8EncodeChar char = [UInt8.ofNat char.toNat] := by
      intro char member
      obtain ⟨byte, inside⟩ :=
        List.exists_mem_of_ne_nil _ (String.utf8EncodeChar_ne_nil (c := char))
      obtain ⟨value, isDigit⟩ := exists_value_of_mem decodes byte
        (List.mem_flatMap.2 ⟨char, member, inside⟩)
      rw [← UInt8.ofNat_toNat (x := byte)] at isDigit
      exact Bytes.encodeChar_of_lt inside (digit_of_digitValue? byte.toNat_lt isDigit).1
    have single : text.toList.flatMap String.utf8EncodeChar =
        text.toList.map fun char => UInt8.ofNat char.toNat := by
      rw [List.map_eq_flatMap, List.flatMap_def, List.flatMap_def,
        List.map_congr_left fun char member => (ascii char member).2]
    rw [single] at decodes
    rw [encode, flatMap_of_decodeFrom _ _ _ (fun char member => (ascii char member).1) decodes,
      ← String.toList_map, String.ofList_toList]
    rfl

end Hex

end ObjectVault
