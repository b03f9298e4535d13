import ObjectVault.Text.Decimal

/-!
# Decimal numbers read back

`Numeral` says which strings of digits stand for a number, leading zeros and all, and
`parse?_eq_some_iff` that these are read as the number, if it has 32 bits, and no others.
`parse?_render` says that every 32-bit number is read back from its digits, and `numeral_iff_zeros`
that nothing but zeros tells the numerals of a number from these.
-/

namespace ObjectVault.Decimal

theorem toNat_lastDigit (number : Nat) : (lastDigit number).toNat = 48 + number % 10 := by
  have small : 48 + number % 10 < 256 := by omega
  simp [lastDigit, Nat.mod_eq_of_lt small]

theorem isDigit_lastDigit (number : Nat) : isDigit (lastDigit number) = true := by
  have digit := toNat_lastDigit number
  simp only [isDigit, Bool.and_eq_true, decide_eq_true_eq, UInt8.le_iff_toNat_le]
  constructor
  · show 48 ≤ (lastDigit number).toNat
    omega
  · show (lastDigit number).toNat ≤ 57
    omega

theorem ne_of_isDigit {byte other : UInt8} (digit : isDigit byte = true)
    (differs : isDigit other = false) : byte ≠ other := by
  rintro rfl
  rw [digit] at differs
  cases differs

/-- With room for all its digits, a number is written without loss. -/
theorem foldl_renderInto {places number : Nat} (room : number < places) (digits : Bytes) :
    (renderInto places number digits).foldl (fun high byte => 10 * high + (byte.toNat - 48)) 0 =
      digits.foldl (fun high byte => 10 * high + (byte.toNat - 48)) number := by
  induction places generalizing number digits with
  | zero => omega
  | succ places ih =>
    have last := toNat_lastDigit number
    unfold renderInto
    split
    · next small =>
      rw [List.foldl_cons, last]
      congr 1
      omega
    · next large =>
      rw [ih (by omega), List.foldl_cons, last]
      congr 1
      omega

theorem all_isDigit_renderInto (places number : Nat) {digits : Bytes}
    (proper : digits.all isDigit = true) :
    (renderInto places number digits).all isDigit = true := by
  induction places generalizing number digits with
  | zero => exact proper
  | succ places ih =>
    have longer : (lastDigit number :: digits).all isDigit = true := by
      rw [List.all_cons, isDigit_lastDigit, proper]
      rfl
    unfold renderInto
    split
    · exact longer
    · exact ih _ longer

theorem renderInto_ne_nil (places number : Nat) {digits : Bytes} (some : digits ≠ []) :
    renderInto places number digits ≠ [] := by
  induction places generalizing number digits with
  | zero => exact some
  | succ places ih =>
    unfold renderInto
    split
    · exact List.cons_ne_nil _ _
    · exact ih _ (List.cons_ne_nil _ _)

/-- Every number has a digit. -/
theorem render_ne_nil (number : Nat) : render number ≠ [] := by
  unfold render renderInto
  split
  · exact List.cons_ne_nil _ _
  · exact renderInto_ne_nil _ _ (List.cons_ne_nil _ _)

/-- A number is written in digits only. -/
theorem all_isDigit_render (number : Nat) : (render number).all isDigit = true :=
  all_isDigit_renderInto _ _ rfl

/-- The value of what is written is the number. -/
theorem value_render (number : Nat) : value (render number) = number :=
  foldl_renderInto (Nat.lt_succ_self number) []

/-- The digit of a decimal place. -/
def digit (place : Nat) : UInt8 := UInt8.ofNat (48 + place)

/-- Whether a string stands for a number in decimal digits. There may be zeros in front. -/
inductive Numeral : Bytes → Nat → Prop where
  | single {place : Nat} (small : place < 10) : Numeral [digit place] place
  | more {front : Bytes} {high place : Nat} (numeral : Numeral front high) (small : place < 10) :
      Numeral (front ++ [digit place]) (10 * high + place)

theorem toNat_digit {place : Nat} (small : place < 10) : (digit place).toNat = 48 + place := by
  have bounded : 48 + place < 256 := by omega
  simp [digit, Nat.mod_eq_of_lt bounded]

theorem isDigit_iff {byte : UInt8} : isDigit byte = true ↔ ∃ place < 10, byte = digit place := by
  constructor
  · intro isDigit
    simp only [Decimal.isDigit, Bool.and_eq_true, decide_eq_true_eq, UInt8.le_iff_toNat_le]
      at isDigit
    have low : 48 ≤ byte.toNat := isDigit.1
    have high : byte.toNat ≤ 57 := isDigit.2
    refine ⟨byte.toNat - 48, by omega, ?_⟩
    apply UInt8.toNat_inj.1
    rw [toNat_digit (by omega)]
    omega
  · rintro ⟨place, small, rfl⟩
    have last : digit place = lastDigit place := by rw [digit, lastDigit, Nat.mod_eq_of_lt small]
    rw [last]
    exact isDigit_lastDigit place

theorem value_concat (front : Bytes) (byte : UInt8) :
    value (front ++ [byte]) = 10 * value front + (byte.toNat - 48) := by
  simp [value, List.foldl_append]

/-- The numerals are the non-empty strings of digits, each of which stands for its value. -/
theorem numeral_iff {text : Bytes} {number : Nat} :
    Numeral text number ↔ text ≠ [] ∧ text.all isDigit = true ∧ value text = number := by
  constructor
  · intro numeral
    induction numeral with
    | @single place small =>
      have isOne : isDigit (digit place) = true := isDigit_iff.2 ⟨place, small, rfl⟩
      have stands := value_concat [] (digit place)
      rw [toNat_digit small, Nat.add_sub_cancel_left] at stands
      exact ⟨by simp, by simp [isOne], by simpa [value] using stands⟩
    | @more front high place _ small ih =>
      obtain ⟨_, digits, stands⟩ := ih
      have isOne : isDigit (digit place) = true := isDigit_iff.2 ⟨place, small, rfl⟩
      refine ⟨by simp, ?_, ?_⟩
      · rw [List.all_append, digits, List.all_cons, isOne]
        rfl
      · rw [value_concat, stands, toNat_digit small, Nat.add_sub_cancel_left]
  · rintro ⟨some, digits, rfl⟩
    -- The digits are taken off at the end, where a numeral grows.
    generalize size : text.length = length
    induction length generalizing text with
    | zero => exact absurd (List.length_eq_zero_iff.1 size) some
    | succ length ih =>
      obtain ⟨front, last, rfl⟩ : ∃ front last, text = front ++ [last] :=
        ⟨_, _, (List.dropLast_concat_getLast some).symm⟩
      rw [List.all_append, Bool.and_eq_true] at digits
      have lastIsDigit : isDigit last = true := by simpa using digits.2
      obtain ⟨place, small, rfl⟩ := isDigit_iff.1 lastIsDigit
      rw [value_concat, toNat_digit small, Nat.add_sub_cancel_left]
      by_cases alone : front = []
      · subst alone
        have first : 10 * value [] + place = place := by simp [value]
        rw [first]
        exact .single small
      · exact .more (ih alone digits.1 (by simpa using size)) small

/-- A string is read as a number exactly if it is a numeral of it. -/
theorem parse?_eq_some_iff {text : Bytes} {number : UInt32} :
    parse? text = some number ↔ Numeral text number.toNat := by
  rw [numeral_iff, parse?]
  constructor
  · intro read
    split at read
    · next readable =>
      obtain ⟨some, digits, bounded⟩ := readable
      cases read
      refine ⟨some, digits, ?_⟩
      rw [UInt32.toNat_ofNat_of_lt' bounded]
    · cases read
  · rintro ⟨some, digits, stands⟩
    have bounded : value text < UInt32.size := by
      rw [stands]
      exact number.toNat_lt
    rw [if_pos ⟨some, digits, bounded⟩, stands, UInt32.ofNat_toNat]

/-- A string stands for one number at most. -/
theorem Numeral.unique {text : Bytes} {first second : Nat} (one : Numeral text first)
    (other : Numeral text second) : first = second :=
  (numeral_iff.1 one).2.2.symm.trans (numeral_iff.1 other).2.2

/-- What is put in front of other digits is the digits of the number. -/
theorem renderInto_eq {places number : Nat} (room : number < places) (digits : Bytes) :
    renderInto places number digits = render number ++ digits := by
  induction number using Nat.strongRecOn generalizing places digits with
  | ind number ih =>
    obtain ⟨places, rfl⟩ : ∃ fewer, places = fewer + 1 := ⟨places - 1, by omega⟩
    unfold render renderInto
    split
    · rfl
    · next large =>
      rw [ih (number / 10) (by omega) (by omega), ih (number / 10) (by omega) (by omega)]
      simp

theorem render_of_lt {number : Nat} (small : number < 10) : render number = [digit number] := by
  rw [render, renderInto, if_pos small, lastDigit, Nat.mod_eq_of_lt small]
  rfl

/-- The last digit of a larger number stands after those of the other places. -/
theorem render_add {high place : Nat} (positive : 0 < high) (small : place < 10) :
    render (10 * high + place) = render high ++ [digit place] := by
  have others : (10 * high + place) / 10 = high := by omega
  have last : (10 * high + place) % 10 = place := by omega
  rw [render, renderInto, if_neg (by omega), others, renderInto_eq (by omega), lastDigit, last]
  rfl

/-- The digits of a positive number begin with one that is not zero. -/
theorem render_eq_cons {number : Nat} (positive : 0 < number) :
    ∃ place rest, 0 < place ∧ place < 10 ∧ render number = digit place :: rest := by
  induction number using Nat.strongRecOn with
  | ind number ih =>
    by_cases small : number < 10
    · exact ⟨number, [], positive, small, render_of_lt small⟩
    · obtain ⟨place, rest, isPositive, isSmall, digits⟩ :=
        ih (number / 10) (by omega) (by omega)
      have split : number = 10 * (number / 10) + number % 10 := by omega
      rw [split, render_add (by omega) (by omega), digits]
      exact ⟨place, _, isPositive, isSmall, rfl⟩

/-- A zero in front does not change the number. -/
theorem Numeral.zero {text : Bytes} {number : Nat} (numeral : Numeral text number) :
    Numeral (digit 0 :: text) number := by
  obtain ⟨_, digits, stands⟩ := numeral_iff.1 numeral
  have isZero : isDigit (digit 0) = true := isDigit_iff.2 ⟨0, by omega, rfl⟩
  refine numeral_iff.2 ⟨List.cons_ne_nil _ _, ?_, ?_⟩
  · rw [List.all_cons, isZero, digits]
    rfl
  · rw [← stands]
    rfl

/-- The numerals of a number are its digits with zeros in front of them. -/
theorem numeral_iff_zeros {text : Bytes} {number : Nat} :
    Numeral text number ↔ ∃ zeros, text = List.replicate zeros (digit 0) ++ render number := by
  constructor
  · intro numeral
    induction numeral with
    | single small => exact ⟨0, (render_of_lt small).symm⟩
    | @more front high place _ small ih =>
      obtain ⟨zeros, rfl⟩ := ih
      by_cases none : high = 0
      · -- What stands for zero is one more zero in front.
        subst none
        refine ⟨zeros + 1, ?_⟩
        rw [List.replicate_succ', Nat.mul_zero, Nat.zero_add, render_of_lt small]
        rfl
      · refine ⟨zeros, ?_⟩
        rw [render_add (by omega) small, List.append_assoc]
  · rintro ⟨zeros, rfl⟩
    induction zeros with
    | zero =>
      exact numeral_iff.2 ⟨render_ne_nil number, all_isDigit_render number, value_render number⟩
    | succ zeros ih => exact ih.zero

/-- A 32-bit number is read back from its digits. -/
theorem parse?_render (number : UInt32) : parse? (render number.toNat) = some number := by
  have bounded : number.toNat < UInt32.size := number.toNat_lt
  have readable : render number.toNat ≠ [] ∧ (render number.toNat).all isDigit = true ∧
      value (render number.toNat) < UInt32.size :=
    ⟨render_ne_nil _, all_isDigit_render _, by rw [value_render]; exact bounded⟩
  rw [parse?, if_pos readable, value_render]
  exact congrArg some UInt32.ofNat_toNat

end ObjectVault.Decimal
