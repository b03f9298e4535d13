import ObjectVault.Command.Run
import ObjectVault.Disk.Image
import ObjectVault.Engine.Files

/-!
# The program

Runs one command line on the file system. What is below the location of the vault is read into a
disk, the command is run on it, and what has changed is written back.
-/

namespace ObjectVault.Program

/-- The start of the texts of all paths that belong to a location. -/
def anchor (location : String) : String :=
  if location.toList.head? = some '/' then "/" else "./"

/-- The text of a path for the file system. -/
def systemText (location : String) (path : Path) : String := anchor location ++ path.text

/-- Notes on a disk what the file system has at a path. -/
def readNode (location : String) (disk : Disk) (path : Path) : IO Disk := do
  let here := (← IO.currentDir) / systemText location path
  if ← here.isDir then
    return (disk.createDirectories path).toOption.getD disk
  else if ← here.pathExists then
    let bytes ← IO.FS.readBinFile here
    return (disk.write path (Image.read bytes.toList)).toOption.getD disk
  else
    return disk

/-- The disk with what the file system has at a location, above it and below it. -/
def readDisk (location : String) : IO Disk := do
  let path := Path.ofText location
  let mut disk : Disk := {}
  for length in [1:path.length + 1] do
    disk ← readNode location disk (path.take length)
  let base := (← IO.currentDir) / systemText location path
  if ← base.isDir then
    for found in ← base.walkDir do
      let below := found.toString.toList.drop base.toString.length
      disk ← readNode location disk (Path.ofText (location ++ String.ofList below))
  return disk

/-- Removes from the file system what is no longer on the disk. -/
def removeOld (location : String) (before after : Disk) : IO Unit := do
  for (path, node) in before.nodes.entries.reverse do
    let text := systemText location path
    match node, after.nodes.get? path with
    | .directory, some .directory | .file _, some (.file _) => pure ()
    | .directory, _ => IO.FS.removeDir text
    | .file _, _ => IO.FS.removeFile text

/-- Writes to the file system what is new on the disk. -/
def writeNew (location : String) (before after : Disk) : IO Unit := do
  for (path, node) in after.nodes.entries do
    let text := systemText location path
    match node with
    | .directory => IO.FS.createDirAll text
    | .file number =>
      let bytes := Image.write (after.content number)
      if (before.read path).toOption.map Image.write ≠ some bytes then
        IO.FS.writeBinFile text ⟨bytes.toArray⟩

/-- A nonce from the system's source of randomness. -/
def randomNonce : IO Nonce := do
  let bytes := (← IO.getRandomBytes 24).toList
  if fits : bytes.length = 24 then return ⟨bytes, fits⟩
  else throw (IO.userError "not enough random bytes")

/-- Shows the lines of a log that tell of problems. -/
def showLog (lines : List LogLine) : IO Unit := do
  for line in lines do
    if compare line.level .warn ≠ .lt then
      IO.eprintln (line.level.inspect ++ ": " ++ line.message)

/-- Runs a command. -/
def perform (invocation : Invocation) : IO UInt32 := do
  let before ← readDisk invocation.store
  let nonce ← randomNonce
  let outcome :=
    Command.run Files.engine Suite.standard invocation ⟨before, {}⟩ (.ofList [nonce])
  removeOld invocation.store before outcome.world.disk
  writeNew invocation.store before outcome.world.disk
  showLog outcome.journal.lines
  match outcome.result with
  | .printed out =>
    IO.print out
    return 0
  | .failed failure =>
    IO.eprintln ("Error: " ++ failure.message)
    for cause in failure.causes do
      IO.eprintln ("  caused by: " ++ cause)
    return 1
  | .panicked => return 101

/-- What is shown of a command line that is not run. -/
def explain (usage : Command.Usage) : IO UInt32 := do
  match usage with
  | .displayVersion =>
    IO.println "tokenstore 0.1.0"
    return 0
  | .displayHelp =>
    IO.println "Usage: tokenstore [OPTIONS] <COMMAND>"
    return 0
  | _ =>
    IO.eprintln ("error: " ++ usage.name)
    return 2

end ObjectVault.Program

/-- Runs the command line with which the program was started. -/
def main (arguments : List String) : IO UInt32 := do
  let environment : ObjectVault.Environment := {
    store := ← IO.getEnv "TOKENSTORE_PATH"
    keyHex := ← IO.getEnv "TOKENSTORE_KEY_HEX" }
  match ObjectVault.Command.parse environment arguments with
  | .ok invocation => ObjectVault.Program.perform invocation
  | .error usage => ObjectVault.Program.explain usage
