/-!
# File errors

What an operating system reports when an operation on files fails: there is something on the disk
that stands against it, or the system refuses it for a reason of its own.
-/

namespace ObjectVault

/-- Why an operation on files failed. -/
inductive FileError where
  | notFound
  | alreadyExists
  | notADirectory
  | isADirectory
  /-- A directory would go below itself. -/
  | invalidArgument
  | notEmpty
  /-- Only a file can be copied. -/
  | notAFile
  /-- A permission is missing, a device is busy or broken, there are two devices, and so on. -/
  | refused (reason : String) (code : Nat)
  deriving DecidableEq, Repr

/-- The error in one line. -/
def FileError.message : FileError → String
  | .notFound => "No such file or directory (os error 2)"
  | .alreadyExists => "File exists (os error 17)"
  | .notADirectory => "Not a directory (os error 20)"
  | .isADirectory => "Is a directory (os error 21)"
  | .invalidArgument => "Invalid argument (os error 22)"
  | .notEmpty => "Directory not empty (os error 39)"
  | .notAFile => "the source path is neither a regular file nor a symlink to a regular file"
  | .refused reason code => reason ++ " (os error " ++ toString code ++ ")"

end ObjectVault
