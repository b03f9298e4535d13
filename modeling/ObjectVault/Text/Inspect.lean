/-!
# Inspection text

How a value shows its own structure: a name, then fields in braces or components in parentheses.
A closed record lists all its fields, an open one says that there are more.
-/

namespace ObjectVault.Inspect

/-- One `label: value` pair of a record. -/
def field : String × String → String
  | (label, value) => label ++ ": " ++ value

/-- A record on one line that shows all its fields. -/
def closed (name : String) (fields : List (String × String)) : String :=
  name ++ " \x7b " ++ ", ".intercalate (fields.map field) ++ " \x7d"

/-- A record on one line that holds back some of its fields. -/
def partly (name : String) (fields : List (String × String)) : String :=
  name ++ " \x7b " ++ ", ".intercalate (fields.map field) ++ ", .. \x7d"

/-- A record with one indented line for every field. -/
def lines (name : String) (fields : List (String × String)) : String :=
  name ++ " \x7b\n" ++ String.join (fields.map fun pair => "    " ++ field pair ++ ",\n") ++ "\x7d"

/-- A name with its components. -/
def applied (name : String) (components : List String) : String :=
  name ++ "(" ++ ", ".intercalate components ++ ")"

/-- The two truth values. -/
def truth : Bool → String
  | true => "true"
  | false => "false"

end ObjectVault.Inspect
