import ObjectVault.Bytes

/-!
# Decimal numbers as bytes

A number is stored as its ASCII digits without leading zeros. Reading back takes any non-empty
string of digits, leading zeros included, whose value is a 32-bit number.
-/

namespace ObjectVault.Decimal

/-- Whether a byte is an ASCII digit. -/
def isDigit (byte : UInt8) : Bool := 48 ≤ byte && byte ≤ 57

/-- The ASCII digit of the last decimal place of a number. -/
def lastDigit (number : Nat) : UInt8 := UInt8.ofNat (48 + number % 10)

/-- Puts the digits of `number` before `digits`, at most `places` of them. -/
def renderInto : (places : Nat) → (number : Nat) → (digits : Bytes) → Bytes
  | 0, _, digits => digits
  | places + 1, number, digits =>
    if number < 10 then lastDigit number :: digits
    else renderInto places (number / 10) (lastDigit number :: digits)

/-- The digits of a number, without leading zeros. -/
def render (number : Nat) : Bytes := renderInto (number + 1) number []

/-- The value of a string of digits. -/
def value (digits : Bytes) : Nat :=
  digits.foldl (fun high byte => 10 * high + (byte.toNat - 48)) 0

/-- Reads a 32-bit number from a non-empty string of digits. -/
def parse? (text : Bytes) : Option UInt32 :=
  if text ≠ [] ∧ text.all isDigit ∧ value text < UInt32.size then some (UInt32.ofNat (value text))
  else none

end ObjectVault.Decimal
