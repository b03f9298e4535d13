import ObjectVault.Bytes

/-!
# Hexadecimal text

Bytes are written as two lower-case digits each. Reading takes digits of either case, two to a
byte, and says what is wrong with any other text: first an odd number of bytes, then the first
byte that is no digit.
-/

namespace ObjectVault.Hex

/-- The lower-case digit of a number below sixteen. -/
def digit (value : Nat) : Char := "0123456789abcdef".toList.getD value '0'

/-- Two lower-case digits for every byte. -/
def encode (bytes : Bytes) : String :=
  String.ofList (bytes.flatMap fun byte => [digit (byte.toNat / 16), digit (byte.toNat % 16)])

/-- The value of a digit of either case. -/
def digitValue? (byte : UInt8) : Option UInt8 :=
  if 48 ≤ byte ∧ byte ≤ 57 then some (byte - 48)
  else if 97 ≤ byte ∧ byte ≤ 102 then some (byte - 87)
  else if 65 ≤ byte ∧ byte ≤ 70 then some (byte - 55)
  else none

/-- Why a text is not hexadecimal. -/
inductive Fault where
  | oddLength
  | invalidDigit (byte : UInt8) (index : Nat)
  deriving DecidableEq, Repr

/-- Reads the digits of `text`, whose first byte has the given index. -/
def decodeFrom (index : Nat) : (text : Bytes) → Except Fault Bytes
  | [] => .ok []
  | [_] => .error .oddLength
  | high :: low :: rest =>
    match digitValue? high, digitValue? low with
    | none, _ => .error (.invalidDigit high index)
    | _, none => .error (.invalidDigit low (index + 1))
    | some upper, some lower => (decodeFrom (index + 2) rest).map ((16 * upper + lower) :: ·)

/-- Reads a hexadecimal text. -/
def decode (text : Bytes) : Except Fault Bytes :=
  if text.length % 2 = 1 then .error .oddLength else decodeFrom 0 text

end ObjectVault.Hex
