import Locator.Bindings
import Locator.Command.Arguments
import Locator.Template.Expansion
import Locator.Url.Parts

/-! What a command answers. -/

namespace Locator

/-- Why a command has no answer. -/
inductive CommandError where
  /-- The command line is not carried out. -/
  | usage (error : UsageError)
  /-- Bindings cannot be had. -/
  | bindings (error : BindingsError)
  /-- The URL is refused. -/
  | url (error : UrlError)
  deriving DecidableEq, Repr

/-- Why a command has no answer, in words. -/
def CommandError.message : CommandError → String
  | usage error => error.message
  | bindings error => error.message
  | url error => error.message

namespace Bindings

/-- The bindings of a file, of a JSON text and of assignments, each over the ones before. -/
def collect (files : Files) (file json : Option String) (assignments : List String) :
    Except BindingsError Bindings := do
  let fromFile ← match file with
    | some path => load files path
    | none => .ok empty
  let fromJson ← match json with
    | some text => readJson text
    | none => .ok empty
  -- Assignments are read last, so what is wrong with a file or with JSON is told first.
  (fromFile.merge fromJson).assign assignments

end Bindings

namespace Url

/-- A line with a label for each component of a URL that is there; the host is always told. -/
def description (url : Url) : List String :=
  ["scheme: " ++ url.scheme, "host: " ++ url.hostText?.getD ""]
    ++ (url.port?.map fun port => "port: " ++ Nat.repr port.toNat).toList
    ++ ["path: " ++ url.pathText]
    ++ (url.query.map ("query: " ++ ·)).toList
    ++ (url.fragment.map ("fragment: " ++ ·)).toList

end Url

namespace Command

/-- The answer of a command. -/
def run (files : Files) : Command → Except CommandError String
  | expand template file json assignments => do
    let bindings ← (Bindings.collect files file json assignments).mapError .bindings
    return Locator.expand template bindings
  | url text asJson => do
    let url ← (Url.parse text).mapError .url
    return if asJson then .ofList (url.parts.toJson.pretty 0) else "\n".intercalate url.description

/-- The answer of a command line, and whether it asks to be told more. -/
def answer (files : Files) (arguments : List String) : Except CommandError (String × Bool) := do
  let invocation ← (read arguments).mapError .usage
  let text ← invocation.command.run files
  return (text, invocation.verbose)

end Command

end Locator
