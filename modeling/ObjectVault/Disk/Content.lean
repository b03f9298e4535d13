import ObjectVault.Backend

/-!
# File contents

A file is either a database or holds plain bytes. How a database is laid out in bytes is of no
interest here, so it is kept as what can be read from it, together with its condition.
-/

namespace ObjectVault

/-- What the bookkeeping in a database file says. -/
inductive DatabaseFile.Condition where
  | clean
  /-- The file is in use, or was until its user stopped. -/
  | unclean
  /-- The file was not closed, and its contents are lost. -/
  | beyondRepair
  | headerLost
  deriving DecidableEq, Repr

/-- The tables that a database file may have under the name of the object table. -/
inductive DatabaseFile.Contents where
  | objects (table : Table)
  /-- A table from numbers to numbers. -/
  | numbers
  | multimap
  deriving DecidableEq

/-- A database file. -/
structure DatabaseFile where
  contents : DatabaseFile.Contents := .objects ∅
  condition : DatabaseFile.Condition := .clean
  deriving DecidableEq

/-- What a file holds. -/
inductive FileContent where
  | plain (bytes : Bytes)
  | database (file : DatabaseFile)
  deriving DecidableEq

namespace FileContent

/-- The object table of a file, which is empty if there is none. -/
def table : FileContent → Table
  | .database ⟨.objects table, _⟩ => table
  | _ => ∅

/-- The file with another object table. A database that is written to is in use. -/
def withTable (table : Table) : FileContent → FileContent
  | .database file => .database { file with contents := .objects table }
  | .plain _ => .database ⟨.objects table, .unclean⟩

/-- The file in another condition, if it is a database. -/
def withCondition (condition : DatabaseFile.Condition) : FileContent → FileContent
  | .database file => .database { file with condition }
  | .plain bytes => .plain bytes

end FileContent

end ObjectVault
