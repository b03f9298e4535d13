/-!
# White space

The characters of the Unicode property `White_Space`, and texts without such characters at their
ends.
-/

namespace ObjectVault.Blank

/-- Whether a character is white space. -/
def isBlank (char : Char) : Bool :=
  let point := char.toNat
  (9 ≤ point && point ≤ 13) || (0x2000 ≤ point && point ≤ 0x200A) ||
    [0x20, 0x85, 0xA0, 0x1680, 0x2028, 0x2029, 0x202F, 0x205F, 0x3000].contains point

/-- The text without white space at either end. -/
def trim (text : String) : String :=
  String.ofList ((text.toList.dropWhile isBlank).reverse.dropWhile isBlank).reverse

end ObjectVault.Blank
