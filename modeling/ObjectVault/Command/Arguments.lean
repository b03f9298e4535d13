import ObjectVault.Object
import ObjectVault.Text.Decimal

/-!
# Command lines

A command line names a command and its operands, and gives options before or after the name.
Arguments are read from left to right. A value is looked at only when the next argument has been
read, so that an argument that is unknown is reported before a value that is wrong.
-/

namespace ObjectVault

/-- What is to be done with a vault. -/
inductive Command where
  | init
  | getInternal (number : UInt32)
  | setInternal (number : UInt32) (hex : String)
  | insert (isPrivate : Bool) (hex : String)
  | list (isPrivate : Bool)
  | delete (handle : Handle)
  | wipe
  deriving DecidableEq, Repr

/-- A command, and the vault that it is about. -/
structure Invocation where
  store : String
  keyHex : Option String
  command : Command
  deriving DecidableEq, Repr

/-- The values that the environment has for options. -/
structure Environment where
  store : Option String := none
  keyHex : Option String := none
  deriving DecidableEq, Repr

namespace Command

/-- Why a command line is not run. -/
inductive Usage where
  | displayHelp
  | displayVersion
  /-- Help is shown because nothing is given. -/
  | displayHelpOnMissing
  | missingSubcommand
  | invalidSubcommand
  /-- There is no such option, or no place for an operand. -/
  | unknownArgument
  | missingRequiredArgument
  | invalidValue
  | valueValidation
  | argumentConflict
  | tooManyValues
  deriving DecidableEq, Repr

/-- The name of the reason. -/
def Usage.name : Usage → String
  | .displayHelp => "DisplayHelp"
  | .displayVersion => "DisplayVersion"
  | .displayHelpOnMissing => "DisplayHelpOnMissingArgumentOrSubcommand"
  | .missingSubcommand => "MissingSubcommand"
  | .invalidSubcommand => "InvalidSubcommand"
  | .unknownArgument => "UnknownArgument"
  | .missingRequiredArgument => "MissingRequiredArgument"
  | .invalidValue => "InvalidValue"
  | .valueValidation => "ValueValidation"
  | .argumentConflict => "ArgumentConflict"
  | .tooManyValues => "TooManyValues"

/-- The commands by name. -/
inductive Name where
  | init
  | getInternal
  | setInternal
  | insert
  | list
  | delete
  | wipe
  deriving DecidableEq, Repr

/-- What an operand has to be. -/
inductive OperandKind where
  | number
  | text
  deriving DecidableEq, Repr

/-- An operand. -/
inductive Operand where
  | number (value : UInt32)
  | text (value : String)
  deriving DecidableEq, Repr

namespace Name

/-- All commands. -/
def all : List Name := [.init, .getInternal, .setInternal, .insert, .list, .delete, .wipe]

/-- How the command is written. -/
def text : Name → String
  | .init => "init"
  | .getInternal => "get-internal"
  | .setInternal => "set-internal"
  | .insert => "insert"
  | .list => "list"
  | .delete => "delete"
  | .wipe => "wipe"

/-- The command that a text names. -/
def ofText? (written : String) : Option Name := all.find? fun name => name.text == written

/-- The operands of the command. -/
def operands : Name → List OperandKind
  | .init | .list | .wipe => []
  | .getInternal | .delete => [.number]
  | .setInternal => [.number, .text]
  | .insert => [.text]

/-- Whether the command has the option `--private`. -/
def takesPrivate : Name → Bool
  | .insert | .list => true
  | _ => false

/-- The command with its operands, if they are all there. -/
def assemble? (name : Name) (isPrivate : Bool) (operands : List Operand) : Option Command :=
  match name, operands with
  | .init, [] => some .init
  | .getInternal, [.number number] => some (.getInternal number)
  | .setInternal, [.number number, .text hex] => some (.setInternal number hex)
  | .insert, [.text hex] => some (.insert isPrivate hex)
  | .list, [] => some (.list isPrivate)
  | .delete, [.number number] => some (.delete ⟨number⟩)
  | .wipe, [] => some .wipe
  | _, _ => none

end Name

/-- The command that shows help. -/
def helpName : String := "help"

/-- Whether a text names a command. -/
def isName (written : String) : Bool := written == helpName || (Name.ofText? written).isSome

/-- The options with values, which are known before and after the command. -/
inductive ValueOption where
  | store
  | keyHex
  deriving DecidableEq, Repr

/-- The part of the command line that is read. -/
inductive Level where
  | top
  | command (name : Name)
  deriving DecidableEq, Repr

namespace Level

/-- The operands in this part. -/
def operands : Level → List OperandKind
  | .top => []
  | .command name => name.operands

/-- Whether there is the option `--private` in this part. -/
def takesPrivate : Level → Bool
  | .top => false
  | .command name => name.takesPrivate

end Level

/-- A value whose argument has been read and which is still to be looked at. -/
inductive Pending where
  /-- An option and its value, which may be the next argument. -/
  | option (option : ValueOption) (value : Option String)
  | operand (kind : OperandKind) (value : String)
  deriving DecidableEq, Repr

/-- What has been read of one part of a command line. -/
structure Progress where
  store : Option String := none
  keyHex : Option String := none
  isPrivate : Bool := false
  /-- The operands that have been looked at. -/
  operands : List Operand := []
  /-- How many operands have been read. -/
  operandsRead : Nat := 0
  /-- The value that is still to be looked at. -/
  pending : Option Pending := none
  onlyOperands : Bool := false
  deriving DecidableEq, Repr

/-- A 32-bit number, which may have a sign. -/
def parseNumber? (text : String) : Option UInt32 :=
  match Bytes.ofText text with
  | 43 :: digits => Decimal.parse? digits
  | 45 :: digits => (Decimal.parse? digits).filter (· = 0)
  | digits => Decimal.parse? digits

namespace Progress

/-- Whether the next argument is the value of an option. -/
def awaitsValue (progress : Progress) : Bool :=
  match progress.pending with
  | some (.option _ none) => true
  | _ => false

/-- Sets an option, which must not be set already. -/
def setOption (option : ValueOption) (value : String) (progress : Progress) :
    Except Usage Progress :=
  match option with
  | .store =>
    if progress.store.isSome then .error .argumentConflict
    else .ok { progress with store := some value }
  | .keyHex =>
    if progress.keyHex.isSome then .error .argumentConflict
    else .ok { progress with keyHex := some value }

/-- Adds an operand. -/
def addOperand (operand : Operand) (progress : Progress) : Progress :=
  { progress with operands := progress.operands ++ [operand] }

/-- Looks at the value that has been read last. -/
def settle (progress : Progress) : Except Usage Progress :=
  let settled := { progress with pending := none }
  match progress.pending with
  | none => .ok settled
  | some (.option _ none) => .error .invalidValue
  | some (.option option (some value)) => settled.setOption option value
  | some (.operand .text value) => .ok (settled.addOperand (.text value))
  | some (.operand .number value) =>
    match parseNumber? value with
    | some number => .ok (settled.addOperand (.number number))
    | none => .error .valueValidation

/-- Reads an option with a value, which may be in the same argument. -/
def readOption (option : ValueOption) (attached : Option String) (progress : Progress) :
    Except Usage Progress := do
  let settled ← progress.settle
  match attached with
  | some value => settled.setOption option value
  | none => return { settled with pending := some (.option option none) }

/-- Reads an option without a value. -/
def readFlag (attached : Option String) (effect : Progress → Except Usage Progress)
    (progress : Progress) : Except Usage Progress :=
  if attached.isSome then .error .tooManyValues else progress.settle >>= effect

/-- Reads an argument that starts with two hyphens. -/
def readLong (level : Level) (name : String) (attached : Option String) (progress : Progress) :
    Except Usage Progress :=
  if name = "store" then progress.readOption .store attached
  else if name = "key-hex" then progress.readOption .keyHex attached
  else if name = "help" then progress.readFlag attached fun _ => .error .displayHelp
  else if name = "version" ∧ level = .top then
    progress.readFlag attached fun _ => .error .displayVersion
  else if name = "private" ∧ level.takesPrivate then
    progress.readFlag attached fun settled =>
      if settled.isPrivate then .error .argumentConflict
      else .ok { settled with isPrivate := true }
  else .error .unknownArgument

/-- Reads an argument that starts with one hyphen. Its first letter decides, as there are no
letters that could be followed by others. -/
def readShort (level : Level) (letter : Char) (progress : Progress) : Except Usage Progress :=
  if letter = 'h' then progress.settle >>= fun _ => .error .displayHelp
  else if letter = 'V' ∧ level = .top then progress.settle >>= fun _ => .error .displayVersion
  else .error .unknownArgument

/-- Reads an operand. -/
def readOperand (level : Level) (argument : String) (progress : Progress) :
    Except Usage Progress :=
  match level.operands[progress.operandsRead]? with
  | some kind => do
    let settled ← progress.settle
    return { settled with
      operandsRead := settled.operandsRead + 1
      pending := some (.operand kind argument) }
  | none =>
    if level = .top ∧ !(progress.onlyOperands && isName argument) then .error .invalidSubcommand
    else .error .unknownArgument

/-- Reads an argument that starts with no hyphen, or is one. -/
def readPlain (level : Level) (argument : String) (progress : Progress) :
    Except Usage Progress :=
  match progress.pending with
  | some (.option option none) =>
    .ok { progress with pending := some (.option option (some argument)) }
  | _ => progress.readOperand level argument

/-- The parts of a text before and after its first equals sign. -/
def splitAtEquals (text : List Char) : String × Option String :=
  let name := text.takeWhile (· ≠ '=')
  match text.drop name.length with
  | [] => (String.ofList name, none)
  | _ :: value => (String.ofList name, some (String.ofList value))

/-- Reads an argument that is no command. -/
def readArgument (level : Level) (argument : String) (progress : Progress) :
    Except Usage Progress :=
  if progress.onlyOperands then progress.readOperand level argument
  else
    match argument.toList with
    | ['-', '-'] => .ok { progress with onlyOperands := true }
    | '-' :: '-' :: long =>
      let (name, attached) := splitAtEquals long
      progress.readLong level name attached
    | '-' :: letter :: _ => progress.readShort level letter
    | _ => progress.readPlain level argument

/-- What is read of the part before the command: the command and what comes after it, if there
is one. -/
def readTop (progress : Progress) :
    List String → Except Usage (Progress × Option (Name × List String))
  | [] => .ok (progress, none)
  | argument :: rest =>
    if !progress.onlyOperands && !progress.awaitsValue && argument == helpName then
      match rest with
      | [] => .error .displayHelp
      | [name] => .error (if isName name then .displayHelp else .invalidSubcommand)
      | _ => .error .invalidSubcommand
    else
      match Name.ofText? argument with
      | some name =>
        if !progress.onlyOperands && !progress.awaitsValue then .ok (progress, some (name, rest))
        else progress.readArgument .top argument >>= fun next => next.readTop rest
      | none => progress.readArgument .top argument >>= fun next => next.readTop rest

/-- Reads the part after a command. -/
def readCommand (name : Name) (progress : Progress) : List String → Except Usage Progress
  | [] => progress.settle
  | argument :: rest =>
    progress.readArgument (.command name) argument >>= fun next => next.readCommand name rest

end Progress

/-- The location of the vault if none is given. -/
def defaultStore : String := "./tokenstore"

/-- Reads a command line. A value after the command comes before one in front of it, and both
come before the environment. -/
def parse (environment : Environment) (arguments : List String) : Except Usage Invocation := do
  let (top, found) ← Progress.readTop {} arguments
  match found with
  | some (name, rest) =>
    let inner ← Progress.readCommand name {} rest
    match name.assemble? inner.isPrivate inner.operands with
    | none => throw .missingRequiredArgument
    | some command =>
      let outer ← top.settle
      return {
        store := (inner.store <|> outer.store <|> environment.store).getD defaultStore
        keyHex := inner.keyHex <|> outer.keyHex <|> environment.keyHex
        command }
  | none =>
    let outer ← top.settle
    let store := outer.store <|> environment.store
    let keyHex := outer.keyHex <|> environment.keyHex
    if store.isNone && keyHex.isNone then throw .displayHelpOnMissing
    else throw .missingSubcommand

end Command

end ObjectVault
