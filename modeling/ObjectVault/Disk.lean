import ObjectVault.Disk.Content
import ObjectVault.Disk.FileError
import ObjectVault.Disk.Path

/-!
# Disks

A disk is a tree of directories and files. A file is known by a number, which stays the same when
the file is moved; what it holds is found under that number, even by someone who opened it before
its name was removed. There are no symbolic links: what is said of a path is said of a place in the
tree, and not of another place to which the path would lead.

A directory may be removed, and whatever there is may be moved, only if the operating system does
not refuse it. What it refuses at the moment is a part of the disk, and may be anything. An
operation that fails leaves the disk as it is, but for a directory that is removed: when the system
refuses to go on, some of what was below it may be gone.
-/

namespace ObjectVault

/-- What is at a path. -/
inductive Node where
  | directory
  | file (number : Nat)
  deriving DecidableEq, Repr

/-- What the operating system may refuse. -/
inductive FileOperation where
  | removeDirectory (path : Path)
  | move (source target : Path)
  deriving DecidableEq, Repr

/-- An operation that the operating system refuses at the moment. -/
structure Refusal where
  operation : FileOperation
  reason : String
  code : Nat
  /-- The names of the trees that are gone by then, below the path of the operation. -/
  gone : List Path := []
  deriving DecidableEq, Repr

/-- What the operation reports. -/
def Refusal.error (refusal : Refusal) : FileError := .refused refusal.reason refusal.code

/-- A file tree and the files in it. -/
structure Disk where
  nodes : SortedMap Path Node := ∅
  files : SortedMap Nat FileContent := ∅
  nextFile : Nat := 0
  /-- The files that someone holds open. -/
  locked : List Nat := []
  refusals : List Refusal := []
  deriving DecidableEq

namespace Disk

/-- Follows names from a node at a path. -/
def walk (disk : Disk) : Path → Node → List String → Except FileError Node
  | _, node, [] => .ok node
  | _, .file _, _ :: _ => .error .notADirectory
  | here, .directory, name :: rest =>
    match disk.nodes.get? (here ++ [name]) with
    | some node => walk disk (here ++ [name]) node rest
    | none => .error .notFound

/-- What is at a path. -/
def find (disk : Disk) (path : Path) : Except FileError Node := disk.walk [] .directory path

/-- Makes sure that there is a directory at a path. -/
def requireDirectory (disk : Disk) (path : Path) : Except FileError Unit :=
  match disk.find path with
  | .ok .directory => .ok ()
  | .ok (.file _) => .error .notADirectory
  | .error error => .error error

/-- Creates the directories along names that are not there, below a directory. -/
def createBelow (disk : Disk) : Path → List String → Except FileError Disk
  | _, [] => .ok disk
  | here, name :: rest =>
    match disk.nodes.get? (here ++ [name]) with
    | some .directory => createBelow disk (here ++ [name]) rest
    | some (.file _) => .error (if rest = [] then .alreadyExists else .notADirectory)
    | none =>
      createBelow { disk with nodes := disk.nodes.insert (here ++ [name]) .directory }
        (here ++ [name]) rest

/-- Creates a directory and those above it, as far as they are not there. -/
def createDirectories (disk : Disk) (path : Path) : Except FileError Disk :=
  disk.createBelow [] path

/-- What a file holds. A file that was never written to is empty. -/
def content (disk : Disk) (number : Nat) : FileContent :=
  (disk.files.get? number).getD (.plain [])

/-- Changes what a file holds. -/
def setContent (disk : Disk) (number : Nat) (content : FileContent) : Disk :=
  { disk with files := disk.files.insert number content }

/-- Puts a new file at a path in a directory, and answers its number. -/
def createFile (disk : Disk) (path : Path) (content : FileContent) :
    Except FileError (Nat × Disk) :=
  match disk.requireDirectory path.parent with
  | .error error => .error error
  | .ok () =>
    .ok (disk.nextFile,
      { disk with
        nodes := disk.nodes.insert path (.file disk.nextFile)
        files := disk.files.insert disk.nextFile content
        nextFile := disk.nextFile + 1 })

/-- What the file at a path holds. -/
def read (disk : Disk) (path : Path) : Except FileError FileContent :=
  match disk.find path with
  | .ok (.file number) => .ok (disk.content number)
  | .ok .directory => .error .isADirectory
  | .error error => .error error

/-- Writes the file at a path, or a new one if there is none. -/
def write (disk : Disk) (path : Path) (content : FileContent) : Except FileError Disk :=
  match disk.find path with
  | .ok (.file number) => .ok (disk.setContent number content)
  | .ok .directory => .error .isADirectory
  | .error .notFound => (disk.createFile path content).map (·.2)
  | .error error => .error error

/-- Copies a file. -/
def copy (disk : Disk) (source target : Path) : Except FileError Disk :=
  match disk.read source with
  | .ok content => disk.write target content
  | .error .isADirectory => .error .notAFile
  | .error error => .error error

/-- The disk without the tree at a path. -/
def without (disk : Disk) (path : Path) : Disk :=
  { disk with nodes := disk.nodes.filter fun other _ => !path.isPrefixOf other }

/-- The disk without some trees below a path, which have names from there on. -/
def withoutAll (disk : Disk) (path : Path) (gone : List Path) : Disk :=
  gone.foldl (fun left names => left.without (path ++ names)) disk

/-- Removes what is at a path and below it. -/
def remove (disk : Disk) (path : Path) : Except FileError Disk :=
  match disk.find path with
  | .ok _ => .ok (disk.without path)
  | .error error => .error error

/-- How the operating system refuses an operation, if it does. -/
def refusal? (disk : Disk) (operation : FileOperation) : Option Refusal :=
  disk.refusals.find? (·.operation == operation)

/-- Passes unless the operating system refuses an operation. -/
def permit (disk : Disk) (operation : FileOperation) : Except FileError Unit :=
  match disk.refusal? operation with
  | some refusal => .error refusal.error
  | none => .ok ()

/-- Removes the directory at a path and what is below it. -/
def removeDirectory (disk : Disk) (path : Path) : Except FileError Unit × Disk :=
  match disk.refusal? (.removeDirectory path) with
  | some refusal => (.error refusal.error, disk.withoutAll path refusal.gone)
  | none =>
    match disk.find path with
    | .ok .directory => (.ok (), disk.without path)
    | .ok (.file _) => (.error .notADirectory, disk)
    | .error error => (.error error, disk)

/-- Makes room at a path for a node that is moved there. -/
def makeRoom (disk : Disk) (node : Node) (target : Path) : Except FileError Disk :=
  match node, disk.find target with
  | .directory, .ok (.file _) => .error .notADirectory
  | .file _, .ok .directory => .error .isADirectory
  | .directory, .ok .directory =>
    if disk.nodes.keys.any fun other => target.isPrefixOf other && other != target then
      .error .notEmpty
    else disk.remove target
  | .file _, .ok (.file _) => disk.remove target
  | _, .error .notFound => .ok disk
  | _, .error error => .error error

/-- Where a node is after one path has become another. -/
def movedPath (source target path : Path) : Path :=
  if source.isPrefixOf path then target ++ path.drop source.length else path

/-- Moves what is at a path, and what is below it, to another path. -/
def move (disk : Disk) (source target : Path) : Except FileError Disk := do
  disk.permit (.move source target)
  disk.requireDirectory source.parent
  disk.requireDirectory target.parent
  let node ← disk.find source
  if source = target then
    return disk
  else if source.isPrefixOf target then
    throw .invalidArgument
  else
    let cleared ← disk.makeRoom node target
    return { cleared with
      nodes := .ofList (cleared.nodes.entries.map fun (path, node) =>
        (movedPath source target path, node)) }

/-- What is below a path, with the names from there on, in the byte order of the texts. -/
def listing (disk : Disk) (path : Path) : List (String × Node) :=
  let below := disk.nodes.entries.filter fun (other, _) =>
    path.isPrefixOf other && other != path
  let named : SortedMap Bytes (String × Node) :=
    .ofList (below.map fun (other, node) =>
      let text := Path.text (other.drop path.length)
      (Bytes.ofText text, text, node))
  named.entries.map (·.2)

/-- Whether someone holds a file open. -/
def isLocked (disk : Disk) (number : Nat) : Bool := disk.locked.contains number

/-- Notes that someone holds a file open. -/
def lock (disk : Disk) (number : Nat) : Disk := { disk with locked := number :: disk.locked }

/-- Notes that a file is no longer held open. -/
def unlock (disk : Disk) (number : Nat) : Disk :=
  { disk with locked := disk.locked.filter (· != number) }

end Disk

end ObjectVault
