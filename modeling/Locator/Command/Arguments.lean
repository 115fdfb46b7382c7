import Locator.Command.Basic
import Locator.Text.Fields

/-! The grammar of a command line. -/

namespace Locator

/-- The form of an argument. -/
inductive Argument where
  /-- Two hyphens, after which every argument is taken as it is. -/
  | verbatim
  /-- A word after two hyphens, with a value after an equals sign if there is one. -/
  | word (name : List Char) (value : Option (List Char))
  /-- Letters after one hyphen. -/
  | letters (letters : List Char)
  /-- Anything else. -/
  | bare
  deriving DecidableEq, Repr

/-- The form of a text; a single hyphen is taken as it is. -/
def Argument.ofText (text : String) : Argument :=
  match text.toList with
  | ['-', '-'] => verbatim
  | '-' :: '-' :: rest =>
    match splitFirst '=' rest with
    | some (name, value) => word name (some value)
    | none => word rest none
  | '-' :: first :: rest => letters (first :: rest)
  | _ => bare

/-- A flag, or an option with a value. -/
structure Switch where
  /-- The word that stands for it. -/
  word : String
  /-- The letter that stands for it. -/
  letter : Option Char
  /-- Whether a value belongs to it. -/
  takesValue : Bool
  /-- Whether it may be given more than once. -/
  repeatable : Bool
  deriving DecidableEq, Repr

namespace Switch

/-- Asks for help. -/
def help : Switch := ⟨"help", some 'h', false, false⟩

/-- Asks to be told more. -/
def verbose : Switch := ⟨"verbose", some 'v', false, false⟩

/-- Names a file of bindings. -/
def file : Switch := ⟨"file", some 'f', true, false⟩

/-- Gives bindings in JSON. -/
def inlineJson : Switch := ⟨"json", some 'j', true, false⟩

/-- Gives one binding. -/
def set : Switch := ⟨"set", some 's', true, true⟩

/-- Asks for JSON. -/
def asJson : Switch := ⟨"json", none, false, false⟩

end Switch

/-- The switches on a command line so far. -/
structure Switches where
  /-- Those that are settled, with their values, the last one first. -/
  settled : List (Switch × String)
  /-- The option that is not settled yet, with its value as soon as that is there. -/
  pending : Option (Switch × Option String)
  deriving DecidableEq, Repr

namespace Switches

/-- No switches. -/
def empty : Switches := ⟨[], none⟩

/-- Adds a switch with its value. -/
def record (switches : Switches) (switch : Switch) (value : String) :
    Except UsageError Switches :=
  if !switch.repeatable && switches.settled.any (·.1 = switch) then .error .repeated
  else .ok { switches with settled := (switch, value) :: switches.settled }

/-- Settles the pending option, which has to have its value by then. -/
def settle (switches : Switches) : Except UsageError Switches :=
  match switches.pending with
  | none => .ok switches
  -- The value has not come.
  | some (_, none) => .error .noValue
  | some (switch, some value) => { switches with pending := none }.record switch value

/-- Adds a flag. -/
def flag (switches : Switches) (switch : Switch) : Except UsageError Switches := do
  let settled ← switches.settle
  if switch = .help then throw .help else settled.record switch ""

/-- Adds an option, whose value may follow as an argument of its own. -/
def option (switches : Switches) (switch : Switch) (value : Option (List Char)) :
    Except UsageError Switches := do
  let settled ← switches.settle
  match value with
  | some value => settled.record switch (.ofList value)
  | none => return { settled with pending := some (switch, none) }

/-- Adds the switch that a word stands for. -/
def word (known : List Switch) (switches : Switches) (name : List Char)
    (value : Option (List Char)) : Except UsageError Switches :=
  match known.find? (·.word.toList = name) with
  | none => .error .unknownArgument
  | some switch =>
    if switch.takesValue then switches.option switch value
    else if value.isSome then .error .unwantedValue
    else switches.flag switch

/-- The value that the letters after an option's letter give, with or without an equals sign in
front; no letters give none. -/
def attached : List Char → Option (List Char)
  | [] => none
  | '=' :: value => some value
  | value => some value

/-- Adds the switches that letters stand for. -/
def letters (known : List Switch) (switches : Switches) :
    List Char → Except UsageError Switches
  | [] => .ok switches
  | letter :: rest =>
    match known.find? (·.letter = some letter) with
    | none => .error .unknownArgument
    | some switch =>
      if switch.takesValue then switches.option switch (attached rest)
      else do
        let flagged ← switches.flag switch
        flagged.letters known rest

/-- Whether a flag is given. -/
def has (switches : Switches) (switch : Switch) : Bool :=
  switches.settled.any (·.1 = switch)

/-- The values of an option in order. -/
def values (switches : Switches) (switch : Switch) : List String :=
  (switches.settled.reverse.filter (·.1 = switch)).map (·.2)

end Switches

namespace Command

/-- The operand that an argument is; there is one at most. -/
def takeOperand (switches : Switches) (operand : Option String) (argument : String) :
    Except UsageError (Switches × Option String) :=
  match operand with
  | some _ => .error .unknownArgument
  | none => switches.settle.map fun settled => (settled, some argument)

/-- The operand among arguments that are all taken as they are. -/
def readVerbatim (switches : Switches) (operand : Option String) :
    List String → Except UsageError (Switches × Option String)
  | [] => .ok (switches, operand)
  | argument :: rest => do
    let (settled, taken) ← takeOperand switches operand argument
    readVerbatim settled taken rest

/-- The switches and the operand among the arguments of a command. -/
def scan (known : List Switch) (switches : Switches) (operand : Option String) :
    List String → Except UsageError (Switches × Option String)
  | [] => .ok (switches, operand)
  | argument :: rest =>
    match Argument.ofText argument with
    | .verbatim => readVerbatim switches operand rest
    | .word name value => do scan known (← switches.word known name value) operand rest
    | .letters letters => do scan known (← switches.letters known letters) operand rest
    | .bare =>
      -- An option that waits for its value takes the argument, else it is the operand.
      match switches.pending with
      | some (switch, none) =>
        scan known { switches with pending := some (switch, some argument) } operand rest
      | _ => do
        let (settled, taken) ← takeOperand switches operand argument
        scan known settled taken rest

/-- The switches and the operand of a command, all settled. -/
def readArguments (known : List Switch) (arguments : List String) :
    Except UsageError (Switches × String) := do
  let (switches, operand) ← scan known .empty none arguments
  let settled ← switches.settle
  match operand with
  | some operand => return (settled, operand)
  | none => throw .noOperand

/-- The names of the commands. -/
def names : List String := ["expand", "url", "help"]

/-- The request for help with at most one command. -/
def readHelp : List String → UsageError
  | [] => .help
  | [name] => if names.contains name then .help else .unknownCommand
  | _ => .unknownCommand

/-- The command of a name with its arguments, told more if the caller has said so before. -/
def ofName (verbose : Bool) (name : String) (arguments : List String) :
    Except UsageError Invocation :=
  match name with
  | "expand" => do
    let (switches, template) ←
      readArguments [.help, .verbose, .file, .inlineJson, .set] arguments
    return ⟨.expand template (switches.values .file).head? (switches.values .inlineJson).head?
      (switches.values .set), verbose || switches.has .verbose⟩
  | "url" => do
    let (switches, address) ← readArguments [.help, .verbose, .asJson] arguments
    return ⟨.url address (switches.has .asJson), verbose || switches.has .verbose⟩
  | "help" => .error (readHelp arguments)
  | _ => .error .unknownCommand

/-- Reads a command line with the given switches in front of it. A command has to stand before two
hyphens. -/
def readFrom (switches : Switches) : List String → Except UsageError Invocation
  | [] => .error .noCommand
  | argument :: rest =>
    match Argument.ofText argument with
    | .verbatim =>
      -- No command follows two hyphens, and the name after them only tells the error.
      match rest with
      | [] => .error .noCommand
      | name :: _ => .error (if names.contains name then .unknownArgument else .unknownCommand)
    | .word name value => do readFrom (← switches.word [.help, .verbose] name value) rest
    | .letters letters => do readFrom (← switches.letters [.help, .verbose] letters) rest
    | .bare => ofName (switches.has .verbose) argument rest

/-- Reads a command line. -/
def read (arguments : List String) : Except UsageError Invocation :=
  readFrom .empty arguments

end Command

end Locator
