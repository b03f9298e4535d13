/-!
# Byte strings

Keys, stored values, payloads and cipher keys are all byte strings. They are lists, so that
`compare` orders them lexicographically by unsigned byte, a proper prefix first, which is the
order in which a database is scanned.
-/

namespace ObjectVault

/-- A finite string of bytes. -/
abbrev Bytes := List UInt8

namespace Bytes

/-- The UTF-8 encoding of a text. -/
def ofText (text : String) : Bytes := text.toUTF8.data.toList

/-- The given bytes written `count` times. -/
def repeated (count : Nat) (bytes : Bytes) : Bytes := (List.replicate count bytes).flatten

/-- Bytewise exclusive or, as long as the shorter operand. -/
def xor (left right : Bytes) : Bytes := left.zipWith (· ^^^ ·) right

/-- Splits off pieces of `size` bytes. The piece under way is held in reverse, and `room` more
bytes fit into it. -/
def piecesFrom (size : Nat) : Bytes → (piece : Bytes) → (room : Nat) → List Bytes
  | [], [], _ => []
  | [], piece, _ => [piece.reverse]
  | byte :: rest, piece, 0 => piece.reverse :: piecesFrom size rest [byte] (size - 1)
  | byte :: rest, piece, room + 1 => piecesFrom size rest (byte :: piece) room

/-- The consecutive pieces of `size` bytes of a byte string; the last one may be shorter. -/
def pieces (size : Nat) (bytes : Bytes) : List Bytes := piecesFrom size bytes [] size

/-- The parts before and after the last occurrence of `separator`. -/
def splitLast? (separator : UInt8) : Bytes → Option (Bytes × Bytes)
  | [] => none
  | byte :: rest =>
    match splitLast? separator rest with
    | some (front, back) => some (byte :: front, back)
    | none => if byte = separator then some ([], rest) else none

/-- The number written in little-endian order. -/
def toNatLittle (bytes : Bytes) : Nat := bytes.foldr (fun byte high => byte.toNat + 256 * high) 0

/-- The lowest `count` bytes of a number in little-endian order. -/
def ofNatLittle : (count : Nat) → Nat → Bytes
  | 0, _ => []
  | count + 1, number => UInt8.ofNat number :: ofNatLittle count (number / 256)

/-- The lowest `count` bytes of a number in big-endian order. -/
def ofNatBig (count number : Nat) : Bytes := (ofNatLittle count number).reverse

@[simp] theorem length_xor (left right : Bytes) :
    (xor left right).length = min left.length right.length := by
  simp [xor]

@[simp] theorem length_ofNatLittle (count number : Nat) :
    (ofNatLittle count number).length = count := by
  induction count generalizing number with
  | zero => rfl
  | succ count ih => simp [ofNatLittle, ih]

@[simp] theorem length_ofNatBig (count number : Nat) : (ofNatBig count number).length = count := by
  simp [ofNatBig]

end Bytes

end ObjectVault
