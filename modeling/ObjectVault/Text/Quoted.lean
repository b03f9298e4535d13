import ObjectVault.Text.Unprinted

/-!
# Quoted text

A text is quoted between double quotes. Quotes and backslashes in it, and the characters that
cannot be printed, are written as escapes; a single quote is escaped only in a quoted character.
-/

namespace ObjectVault.Quoted

/-- The lower-case hexadecimal digits of a number, without leading zeros. -/
def hexadecimal (number : Nat) : String := String.ofList (Nat.toDigits 16 number)

/-- The escape of a character that stands for itself in no quoted text. -/
def escape? (char : Char) : Option String :=
  match char with
  | '\t' => some "\\t"
  | '\r' => some "\\r"
  | '\n' => some "\\n"
  | '\\' => some "\\\\"
  | '\x00' => some "\\0"
  | _ =>
    if Unprinted.isUnprinted char.toNat then
      some ("\\u\x7b" ++ hexadecimal char.toNat ++ "\x7d")
    else none

/-- A character between the delimiters of a quoted text, of which `quote` is one. -/
def inside (quote char : Char) : String :=
  if char = quote then String.ofList ['\\', char] else (escape? char).getD (String.singleton char)

/-- A text in double quotes. -/
def text (content : String) : String :=
  "\"" ++ String.join (content.toList.map (inside '"')) ++ "\""

/-- A character in single quotes. -/
def char (content : Char) : String := "'" ++ inside '\'' content ++ "'"

end ObjectVault.Quoted
