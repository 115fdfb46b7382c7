import Locator.Document.Json
import Locator.Document.Message
import Locator.Document.Value
import Locator.Document.Yaml
import Locator.Text.Ascii
import Locator.Text.Utf8

/-! Where bindings come from: JSON, YAML, a file of either, and assignments. -/

namespace Locator

/-- Why a file has no text. -/
inductive FileFailure where
  /-- There is no such file. -/
  | notFound
  /-- There is a directory of that name. -/
  | isDirectory
  /-- The bytes are not UTF-8. -/
  | notText
  deriving DecidableEq, Repr

/-- The bytes of files by their paths. -/
abbrev Files := String → Except FileFailure (List UInt8)

/-- Why bindings cannot be had. -/
inductive BindingsError where
  /-- The given JSON does not hold bindings. -/
  | json (error : ReadError)
  /-- A file cannot be read. -/
  | file (path : String) (failure : FileFailure)
  /-- The text of a file does not hold bindings. -/
  | yaml (path : String) (error : ReadError)
  /-- An assignment has no equals sign. -/
  | noEqualsSign (assignment : String)
  /-- An assignment has no name before its equals sign. -/
  | noName (assignment : String)
  deriving DecidableEq, Repr

/-- Why a file has no text, as error texts name it. -/
def FileFailure.name : FileFailure → String
  | notFound => "NotFound"
  | isDirectory => "IsADirectory"
  | notText => "InvalidData"

/-- Why bindings cannot be had, in words. -/
def BindingsError.message : BindingsError → String
  | json error => "Invalid JSON bindings: " ++ error.message .json
  | file path failure => "Could not read bindings file " ++ path ++ ": " ++ failure.name
  | yaml path error => "Invalid bindings in " ++ path ++ ": " ++ error.message .yaml
  | noEqualsSign assignment => "Invalid assignment '" ++ assignment ++ "': expected name=value"
  | noName assignment => "Invalid assignment '" ++ assignment ++ "': variable name is empty"

namespace Value

/-- The value that a JSON text holds. -/
def ofJson (text : String) : Except ReadError Value :=
  Document.readJson (Document.value []) text

/-- The value that a YAML text holds. -/
def ofYaml (text : String) : Except ReadError Value :=
  Document.value [] (.ofYaml text)

end Value

/-- The ranges of code points that are white space in the scripts of the world. -/
def blankRanges : List (Nat × Nat) :=
  [(0x09, 0x0D), (0x20, 0x20), (0x85, 0x85), (0xA0, 0xA0), (0x1680, 0x1680), (0x2000, 0x200A),
    (0x2028, 0x2029), (0x202F, 0x202F), (0x205F, 0x205F), (0x3000, 0x3000)]

/-- Whether a character is white space. -/
def isBlank (c : Char) : Bool :=
  inRanges blankRanges c

/-- The text of a file. -/
def Files.text (files : Files) (path : String) : Except FileFailure String := do
  match Utf8.decode? (← files path) with
  | some text => return .ofList text
  | none => throw .notText

namespace Bindings

/-- The bindings that a JSON text holds. -/
def ofJson (text : String) : Except ReadError Bindings :=
  Document.readJson Document.bindings text

/-- The bindings that a YAML text holds. White space alone binds nothing. -/
def ofYaml (text : String) : Except ReadError Bindings :=
  if text.toList.all isBlank then .ok empty else Document.bindings (.ofYaml text)

/-- The bindings that the JSON text of a caller holds. -/
def readJson (text : String) : Except BindingsError Bindings :=
  (ofJson text).mapError .json

/-- The bindings that a file of YAML or JSON holds. -/
def load (files : Files) (path : String) : Except BindingsError Bindings := do
  let text ← (files.text path).mapError (.file path)
  (ofYaml text).mapError (.yaml path)

/-- The name and the value of an assignment; only the first equals sign counts. -/
def readAssignment (assignment : String) : Except BindingsError (String × Value) :=
  match splitFirst '=' assignment.toList with
  | none => .error (.noEqualsSign assignment)
  | some ([], _) => .error (.noName assignment)
  -- The text may be empty, and may hold more equals signs.
  | some (name, text) => .ok (.ofList name, .scalar (.ofList text))

/-- The bindings of a list of assignments over earlier ones, up to the first one that is wrong. -/
def assign (bindings : Bindings) : List String → Except BindingsError Bindings
  | [] => .ok bindings
  | assignment :: rest => do
    let (name, value) ← readAssignment assignment
    assign (bindings.insert name value) rest

end Bindings

end Locator
