import ObjectVault.Bytes

/-!
# UTF-8 text in byte strings

A byte string is cut into units: each is either an encoded character or a longest run of bytes
that starts like an encoded character but is none. A string is UTF-8 text when all its units are
characters; for display, every other unit is shown as U+FFFD.
-/

namespace ObjectVault.Utf8

/-- The bits that a leading byte contributes, and the range of each byte that has to follow it. -/
def lead? (byte : UInt8) : Option (Nat × List (UInt8 × UInt8)) :=
  let tail : UInt8 × UInt8 := (0x80, 0xBF)
  if byte < 0x80 then some (byte.toNat, [])
  else if byte < 0xC2 then none
  else if byte < 0xE0 then some (byte.toNat - 0xC0, [tail])
  else if byte = 0xE0 then some (0, [(0xA0, 0xBF), tail])
  else if byte = 0xED then some (13, [(0x80, 0x9F), tail])
  else if byte < 0xF0 then some (byte.toNat - 0xE0, [tail, tail])
  else if byte = 0xF0 then some (0, [(0x90, 0xBF), tail, tail])
  else if byte < 0xF4 then some (byte.toNat - 0xF0, [tail, tail, tail])
  else if byte = 0xF4 then some (4, [(0x80, 0x8F), tail, tail])
  else none

/-- Reads following bytes as far as they are in their ranges: the code point, if all of them
are, and the number of bytes read. -/
def follow (bits : Nat) : List (UInt8 × UInt8) → Bytes → Option Nat × Nat
  | [], _ => (some bits, 0)
  | _ :: _, [] => (none, 0)
  | (low, high) :: ranges, byte :: rest =>
    if low ≤ byte ∧ byte ≤ high then
      let (point, count) := follow (64 * bits + (byte.toNat - 0x80)) ranges rest
      (point, count + 1)
    else (none, 0)

/-- The unit that starts with `byte`: its character, if it is one, and how many bytes of `rest`
belong to it. -/
def unit (byte : UInt8) (rest : Bytes) : Option Char × Nat :=
  match lead? byte with
  | none => (none, 0)
  | some (bits, ranges) =>
    let (point, count) := follow bits ranges rest
    (point.map Char.ofNat, count)

/-- The units of a byte string whose first `skip` bytes belong to an earlier unit. -/
def unitsAfter : (skip : Nat) → Bytes → List (Option Char)
  | _, [] => []
  | skip + 1, _ :: rest => unitsAfter skip rest
  | 0, byte :: rest =>
    let (char, count) := unit byte rest
    char :: unitsAfter count rest

/-- The units of a byte string, `none` for each that is no character. -/
def units (bytes : Bytes) : List (Option Char) := unitsAfter 0 bytes

/-- The text that a byte string encodes. -/
def decode? (bytes : Bytes) : Option String := ((units bytes).mapM id).map String.ofList

/-- The text of a byte string, with U+FFFD for every unit that is no character. -/
def lossy (bytes : Bytes) : String := String.ofList ((units bytes).map (·.getD '\uFFFD'))

end ObjectVault.Utf8
