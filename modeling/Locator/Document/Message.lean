import Locator.Document.Basic
import Locator.Text.Quoted

/-! The wording of what is wrong with a document. -/

namespace Locator

/-- An integer in decimal digits with its sign. -/
def integerText (n : Int) : String :=
  if n < 0 then "-" ++ Nat.repr n.natAbs else Nat.repr n.natAbs

/-- What a scalar is called. A null has a name of its own in each notation, and only JSON writes
very large and very small numbers with an exponent. -/
def Scalar.describe (written : Notation) : Scalar → String
  | null => match written with
    | .json => "null"
    | .yaml => "unit value"
  | bool flag => "boolean `" ++ (if flag then "true" else "false") ++ "`"
  | integer n => "integer `" ++ integerText n ++ "`"
  | wide n => "integer `" ++ integerText n ++ "` as " ++ (if n < 0 then "i128" else "u128")
  | float d => match written with
    | .json => "floating point `" ++ d.scientificText ++ "`"
    | .yaml => "floating point `" ++ d.textWithPoint ++ "`"
  | text t => "string " ++ Quoted.quote t
  | misfit t _ => "string " ++ Quoted.quote t

/-- What a thing that should not stand there is called. -/
def Found.describe (written : Notation) : Found → String
  | scalar held => held.describe written
  | sequence => "sequence"
  | mapping => "map"
  | tagged => "enum"
  | absent => "Option value"

/-- What should stand there. -/
def Expected.describe : Expected → String
  | value => "a scalar, a list of scalars, a list of [key, value] pairs or a mapping"
  | text => "a string, number or boolean"
  | any => "any value"
  | bindings => "a map"
  | string => "a string"
  | parts => "struct UrlParts"
  | port => "u16"

/-- What is wrong, in words. -/
def Misread.message (written : Notation) : Misread → String
  | fault .malformed => match written with
    | .json => "malformed JSON"
    | .yaml => "malformed YAML"
  | fault .tooDeep => "recursion limit exceeded"
  | fault .tooManyAliases => "repetition limit exceeded"
  | wrongType found expected =>
    "invalid type: " ++ found.describe written ++ ", expected " ++ expected.describe
  | outOfRange n expected =>
    "invalid value: " ++ (Scalar.integer n).describe written ++ ", expected " ++ expected.describe
  | misfit text announced =>
    "invalid value: string " ++ Quoted.quote text ++ ", expected " ++ announced
  | strangeElement => "data did not match any variant of untagged enum Element"
  | taggedElement => "untagged and internally tagged enums do not support enum input"
  | mixedList => "a list cannot mix scalars and [key, value] pairs"
  | missingField name => "missing field `" ++ name ++ "`"
  | duplicateField name => "duplicate field `" ++ name ++ "`"
  | fewParts length =>
    "invalid length " ++ Nat.repr length ++ ", expected struct UrlParts with 6 elements"

/-- A place by its steps, the last one first. The root is a dot. -/
def pathText : List Step → String
  | [] => "."
  | .index position :: above => pathText above ++ "[" ++ Nat.repr position ++ "]"
  | .label label :: above =>
    (if above.isEmpty then "" else pathText above ++ ".") ++ label.getD "?"

/-- What is wrong with a document, in words. Only YAML names the place, unless it is written like
the root, and a document that cannot be read on has no place. -/
def ReadError.message (written : Notation) (error : ReadError) : String :=
  let text := error.cause.message written
  match written, error.cause with
  | .json, _ => text
  | .yaml, .fault _ => text
  | .yaml, _ =>
    -- A key that is a single dot makes a place that cannot be told from the root.
    if pathText error.path = pathText [] then text else pathText error.path ++ ": " ++ text

end Locator
