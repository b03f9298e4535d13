/-!
# Paths

A path leads from the root of a file tree down to one of its nodes. It is written with slashes
between the names; a slash in front, doubled slashes and single dots are of no meaning, and two
dots lead back up.
-/

namespace ObjectVault

/-- The names on the way from the root. -/
abbrev Path := List String

namespace Path

/-- The parts of a text between its slashes. -/
def parts : List Char → List (List Char)
  | [] => [[]]
  | char :: rest =>
    if char = '/' then [] :: parts rest
    else
      match parts rest with
      | [] => [[char]]
      | part :: others => (char :: part) :: others

/-- Goes on from a path by one part of a text. -/
def follow (path : Path) (part : List Char) : Path :=
  if part = [] ∨ part = ['.'] then path
  else if part = ['.', '.'] then path.dropLast
  else path ++ [String.ofList part]

/-- The path that a text names. -/
def ofText (text : String) : Path := (parts text.toList).foldl follow []

/-- The path as a text. -/
def text (path : Path) : String := "/".intercalate path

/-- The path of the directory in which a node is. -/
def parent (path : Path) : Path := path.dropLast

end Path

end ObjectVault
