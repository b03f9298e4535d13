import ObjectVault.Disk.Content

/-!
# Images of files

The bytes in which a database file is kept by a file system: a mark, the condition and the type
of the table, and then the entries, each as a key and a value with their lengths in front.
Everything that does not start with the mark is kept as it is.
-/

namespace ObjectVault.Image

/-- The bytes at the front of a database file. -/
def mark : Bytes := Bytes.ofText "object vault\n"

/-- How many bytes a length takes. -/
def lengthSize : Nat := 8

/-- A byte string with its length in front. -/
def writePiece (piece : Bytes) : Bytes := Bytes.ofNatLittle lengthSize piece.length ++ piece

/-- A byte string that has its length in front, and what comes after it. -/
def readPiece? (bytes : Bytes) : Option (Bytes × Bytes) :=
  let length := Bytes.toNatLittle (bytes.take lengthSize)
  let rest := bytes.drop lengthSize
  if bytes.length < lengthSize ∨ rest.length < length then none
  else some (rest.take length, rest.drop length)

/-- The entries of a table. -/
def writeEntries (entries : List (Bytes × Bytes)) : Bytes :=
  entries.flatMap fun (key, value) => writePiece key ++ writePiece value

/-- The entries written in a byte string, of which there are at most `limit`. -/
def readEntries? : (limit : Nat) → Bytes → Option (List (Bytes × Bytes))
  | _, [] => some []
  | 0, _ :: _ => none
  | limit + 1, bytes => do
    let (key, afterKey) ← readPiece? bytes
    let (value, rest) ← readPiece? afterKey
    let entries ← readEntries? limit rest
    return (key, value) :: entries

/-- The byte for a condition. -/
def conditionByte : DatabaseFile.Condition → UInt8
  | .clean => 0
  | .unclean => 1
  | .beyondRepair => 2
  | .headerLost => 3

/-- The condition for a byte. -/
def condition? (byte : UInt8) : Option DatabaseFile.Condition :=
  [.clean, .unclean, .beyondRepair, .headerLost].find? fun condition =>
    conditionByte condition == byte

/-- The type of a table, and its entries. -/
def writeContents : DatabaseFile.Contents → Bytes
  | .objects table => 0 :: writeEntries table.entries
  | .numbers => [1]
  | .multimap => [2]

/-- The table written in a byte string. -/
def readContents? : Bytes → Option DatabaseFile.Contents
  | 0 :: entries => (readEntries? entries.length entries).map fun found => .objects (.ofList found)
  | [1] => some .numbers
  | [2] => some .multimap
  | _ => none

/-- The bytes of a file. -/
def write : FileContent → Bytes
  | .plain bytes => bytes
  | .database file => mark ++ conditionByte file.condition :: writeContents file.contents

/-- The database written in a byte string. -/
def readDatabase? (bytes : Bytes) : Option DatabaseFile :=
  if mark.isPrefixOf bytes then
    match bytes.drop mark.length with
    | byte :: rest => do
      let condition ← condition? byte
      let contents ← readContents? rest
      return { contents, condition }
    | [] => none
  else none

/-- What a file with the given bytes holds. -/
def read (bytes : Bytes) : FileContent :=
  match readDatabase? bytes with
  | some file => .database file
  | none => .plain bytes

end ObjectVault.Image
