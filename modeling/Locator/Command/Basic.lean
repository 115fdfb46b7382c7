/-! What can be asked for on a command line. -/

namespace Locator

/-- What is asked for. -/
inductive Command where
  /-- The expansion of a template with the bindings of a file, of a JSON text and of assignments. -/
  | expand (template : String) (file json : Option String) (assignments : List String)
  /-- The components of a URL. -/
  | url (url : String) (asJson : Bool)
  deriving DecidableEq, Repr

/-- A command line that makes sense. -/
structure Invocation where
  /-- What is asked for. -/
  command : Command
  /-- Whether to tell more on the way. -/
  verbose : Bool
  deriving DecidableEq, Repr

/-- Why a command line is not carried out. -/
inductive UsageError where
  /-- It asks for help. -/
  | help
  /-- It has no command. -/
  | noCommand
  /-- It has an unknown command. -/
  | unknownCommand
  /-- An argument means nothing. -/
  | unknownArgument
  /-- The argument of the command is missing. -/
  | noOperand
  /-- An option is given without its value. -/
  | noValue
  /-- A flag or an option is given twice. -/
  | repeated
  /-- A flag is given a value. -/
  | unwantedValue
  deriving DecidableEq, Repr

/-- Why a command line is not carried out, in words. -/
def UsageError.message : UsageError → String
  | help => "expand TEMPLATE [-f FILE] [-j JSON] [-s NAME=VALUE]... | url URL [--json]"
  | noCommand => "a command is required: expand or url"
  | unknownCommand => "unknown command"
  | unknownArgument => "unexpected argument"
  | noOperand => "a required argument is missing"
  | noValue => "an option needs a value"
  | repeated => "an option cannot be used several times"
  | unwantedValue => "a flag takes no value"

/-- The file that a command reads. -/
def Command.file? : Command → Option String
  | expand _ file _ _ => file
  | url _ _ => none

end Locator
