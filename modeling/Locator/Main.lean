import Locator.Command.Run

/-! The command line: answers go to standard output and errors to standard error. -/

namespace Locator

/-- The bytes of a file. -/
def readFile (path : String) : IO (Except FileFailure (List UInt8)) := do
  try
    return .ok (← IO.FS.readBinFile path).toList
  catch error =>
    match error with
    | .inappropriateType .. => return .error .isDirectory
    | _ => return .error .notFound

/-- The files that a command line asks for. -/
def readFiles (arguments : List String) : IO Files := do
  match Command.read arguments with
  | .ok ⟨command, _⟩ =>
    match command.file? with
    | some path => let found ← readFile path; return fun _ => found
    | none => return fun _ => .error .notFound
  | .error _ => return fun _ => .error .notFound

end Locator

/-- Answers one command line. -/
def main (arguments : List String) : IO UInt32 := do
  let files ← Locator.readFiles arguments
  match Locator.Command.answer files arguments with
  | .ok (text, _) =>
    IO.println text
    return 0
  | .error (.usage .help) =>
    IO.println Locator.UsageError.help.message
    return 0
  | .error (.usage error) =>
    IO.eprintln ("error: " ++ error.message)
    return 2
  | .error error =>
    IO.eprintln ("Error: " ++ error.message)
    return 1
