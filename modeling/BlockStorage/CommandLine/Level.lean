import BlockStorage.CommandLine.Grammar
import BlockStorage.Text.Numeral
import BlockStorage.Text.Split

/-!
What was given behind one word of the command line.

A flag that takes a value waits for it, and operands are collected, until the next flag or the end
settles them. A flag is given once, unless it takes texts.
-/

namespace BlockStorage.CommandLine

open Text

/-- Why a command line was not understood, or what it asked to be told instead. -/
inductive UsageError where
  | unknownArgument | invalidSubcommand | missingSubcommand | missingRequiredArgument
  | argumentConflict | invalidValue | valueValidation | tooManyValues
  | displayHelp | displayVersion | displayHelpOnMissing
deriving DecidableEq, Repr

/-- The name of the kind of the error. -/
def UsageError.kindName : UsageError → String
  | .unknownArgument => "UnknownArgument"
  | .invalidSubcommand => "InvalidSubcommand"
  | .missingSubcommand => "MissingSubcommand"
  | .missingRequiredArgument => "MissingRequiredArgument"
  | .argumentConflict => "ArgumentConflict"
  | .invalidValue => "InvalidValue"
  | .valueValidation => "ValueValidation"
  | .tooManyValues => "TooManyValues"
  | .displayHelp => "DisplayHelp"
  | .displayVersion => "DisplayVersion"
  | .displayHelpOnMissing => "DisplayHelpOnMissingArgumentOrSubcommand"

/-- The values of slots, in the order in which the slots were settled. -/
abbrev Given := List (Slot × List String)

namespace Given

/-- The values of a slot, if it was given. -/
def values? (slot : Slot) (given : Given) : Option (List String) :=
  (given.find? fun g => g.1 = slot).map Prod.snd

/-- Whether a slot was given. -/
def has (slot : Slot) (given : Given) : Bool := (given.values? slot).isSome

/-- Adds values behind those that a slot has. -/
def append (slot : Slot) (values : List String) : Given → Given
  | [] => [(slot, values)]
  | (other, old) :: rest =>
    if other = slot then (other, old ++ values) :: rest else (other, old) :: append slot values rest

end Given

/-- The values that wait to be settled. -/
structure Pending where
  slot : Slot
  takes : Takes
  values : List String
deriving DecidableEq, Repr

/-- The state of one level: what was settled, what waits, and the operands that may still come. -/
structure Level where
  given : Given
  pending : Option Pending
  operands : List Operand
  /-- Whether only operands may follow. -/
  isTrailing : Bool

/-- Reads a whole number that may have a sign. -/
def signedNumber? (s : List Char) : Option Int :=
  match s with
  | '-' :: digits => (natOfDigits? digits).map fun n => -(n : Int)
  | '+' :: digits => (natOfDigits? digits).map Int.ofNat
  | digits => (natOfDigits? digits).map Int.ofNat

/-- Reads a number of 32 bits. -/
def number? (text : String) : Option UInt32 :=
  match signedNumber? text.toList with
  | some n => if 0 ≤ n && n < 4294967296 then some (UInt32.ofNat n.toNat) else none
  | none => none

namespace Takes

/-- The parts of a value. -/
def parts (takes : Takes) (value : String) : List String :=
  match takes with
  | .texts (some separator) => (splitAt separator value.toList).map String.ofList
  | _ => [value]

/-- Whether a value can be what is asked for. -/
def check (takes : Takes) (value : String) : Except UsageError Unit :=
  match takes with
  | .path => if value.isEmpty then .error .invalidValue else .ok ()
  | .number => if (number? value).isNone then .error .valueValidation else .ok ()
  | _ => .ok ()

/-- Checks values in order. -/
def checkAll (takes : Takes) : List String → Except UsageError Unit
  | [] => .ok ()
  | value :: values => do
    takes.check value
    takes.checkAll values

/-- Whether a slot may be given again. -/
def mayRepeat : Takes → Bool
  | .texts _ => true
  | _ => false

end Takes

namespace Level

/-- The level behind the words that lead to a node. -/
def start (g : Grammar) : Level := ⟨[], none, g.operands, false⟩

/-- Settles the values of a slot. -/
def settle (level : Level) (slot : Slot) (takes : Takes) (values : List String) :
    Except UsageError Level :=
  if takes ≠ .nothing && values.isEmpty then .error .invalidValue
  else
    let values := values.flatMap takes.parts
    if !takes.mayRepeat && level.given.has slot then .error .argumentConflict
    else do
      takes.checkAll values
      return { level with given := level.given.append slot values }

/-- Settles what waits. -/
def settlePending (level : Level) : Except UsageError Level :=
  match level.pending with
  | none => .ok level
  | some pending =>
    { level with pending := none }.settle pending.slot pending.takes pending.values

/-- Whether a flag waits for its value. -/
def isWaiting (level : Level) : Bool :=
  !level.isTrailing && level.pending.any fun pending => pending.values.isEmpty

/-- Takes the value that a flag waits for. -/
def takeValue (level : Level) (value : String) : Level :=
  { level with pending := level.pending.map fun pending => { pending with values := [value] } }

/-- Takes a flag, with the value attached to it if there is one. -/
def takeFlag (level : Level) (flag : Flag) (attached : Option String) : Except UsageError Level := do
  let level ← level.settlePending
  match flag.takes, attached with
  | .nothing, _ => level.settle flag.slot .nothing []
  | takes, some value => level.settle flag.slot takes [value]
  | takes, none => return { level with pending := some ⟨flag.slot, takes, []⟩ }

/-- Takes an operand; nothing when none may come. -/
def takeOperand? (level : Level) (value : String) : Option (Except UsageError Level) :=
  match level.operands with
  | [] => none
  | operand :: operands =>
    some <|
      if operand.isRepeated then
        match level.pending with
        | some pending =>
          if pending.slot = operand.slot then
            .ok { level with pending := some { pending with values := pending.values ++ [value] } }
          else do
            let level ← level.settlePending
            return { level with pending := some ⟨operand.slot, .texts none, [value]⟩ }
        | none => .ok { level with pending := some ⟨operand.slot, .texts none, [value]⟩ }
      else do
        let level ← level.settlePending
        return { level with
          pending := some ⟨operand.slot, .text, [value]⟩
          operands := operands }

/-! ### The environment -/

/-- The variables of the environment. -/
abbrev Environment := List (String × String)

/-- The value of the variable that may stand in for a flag. -/
def standIn? (environment : Environment) (flag : Flag) : Option String :=
  flag.standIn.bind fun name => environment.lookup name

/-- Whether the value of a variable can be what its flag asks for. -/
def checkVariable (flag : Flag) (value : String) : Except UsageError Unit :=
  match flag.takes with
  | .nothing => if value = "true" || value = "false" then .ok () else .error .invalidValue
  | takes => takes.check value

/-- Checks the variables that stand in for flags that were not given. -/
def checkEnvironment (level : Level) (environment : Environment) : List Flag → Except UsageError Unit
  | [] => .ok ()
  | flag :: flags => do
    if !level.given.has flag.slot then
      match standIn? environment flag with
      | some value => checkVariable flag value
      | none => pure ()
    level.checkEnvironment environment flags

/-- Whether anything was given here or stands in for a flag. -/
def isExplicit (level : Level) (environment : Environment) (flags : List Flag) : Bool :=
  !level.given.isEmpty || flags.any fun flag => (standIn? environment flag).isSome

end Level

end BlockStorage.CommandLine
