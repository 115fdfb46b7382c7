import Locator.Document.Basic
import Locator.Template.Value

/-! Reading template values and bindings from documents. -/

namespace Locator

namespace Document

/-- Stops reading at a place. -/
def refuse {α : Type} (path : List Step) (cause : Misread) : Except ReadError α :=
  .error ⟨path, cause⟩

/-- The text of a scalar that has one. -/
def scalarText? : Scalar → Option String
  | .bool flag => some (if flag then "true" else "false")
  | .integer n => some (if n < 0 then "-" ++ Nat.repr n.natAbs else Nat.repr n.natAbs)
  | .float d => some d.text
  | .text t => some t
  | _ => none

/-- Refuses a node that is not what is expected. -/
def mismatch {α : Type} (path : List Step) (expected : Expected) (node : Document) :
    Except ReadError α :=
  match node with
  | fault f => refuse path (.fault f)
  | scalar _ (.misfit text announced) => refuse path (.misfit text announced)
  | _ => refuse path (.wrongType node.found expected)

/-- The text of a node that is a scalar with a text. -/
def text (path : List Step) (expected : Expected) (node : Document) : Except ReadError String :=
  match node with
  | scalar _ held =>
    match scalarText? held with
    | some t => return t
    | none => mismatch path expected node
  | _ => mismatch path expected node

mutual

/-- Reads a node through without regard to its shape. -/
def inspect (path : List Step) : Document → Except ReadError Unit
  | scalar written (.wide n) => mismatch path .any (scalar written (.wide n))
  | scalar written (.misfit t announced) =>
    mismatch path .any (scalar written (.misfit t announced))
  | scalar _ _ => return ()
  | absent => return ()
  | tagged _ => refuse path .taggedElement
  | fault f => refuse path (.fault f)
  | sequence items => inspectItems path 0 items
  | mapping entries => inspectEntries path entries

/-- Reads items through, from a position on. -/
def inspectItems (path : List Step) (position : Nat) : List Document → Except ReadError Unit
  | [] => return ()
  | item :: rest => do
    inspect (.index position :: path) item
    inspectItems path (position + 1) rest

/-- Reads entries through, each with its key first. -/
def inspectEntries (path : List Step) :
    List (Option String × Document × Document) → Except ReadError Unit
  | [] => return ()
  | (label, key, value) :: rest => do
    inspect path key
    inspect (.label label :: path) value
    inspectEntries path rest

end

/-- An element of a list: a scalar's text, or the two texts of a pair. -/
inductive Element where
  /-- A scalar. -/
  | scalar (text : String)
  /-- A sequence of two scalars. -/
  | pair (key text : String)
  deriving DecidableEq, Repr

/-- The text of a scalar node. -/
def plainText? : Document → Option String
  | scalar _ held => scalarText? held
  | _ => none

/-- The element that a node is. -/
def element? : Document → Option Element
  | scalar _ held => (scalarText? held).map .scalar
  | sequence [key, value] => do return .pair (← key.plainText?) (← value.plainText?)
  | _ => none

/-- The elements of a list, each read through before it is judged. -/
def elements (path : List Step) (position : Nat) :
    List Document → Except ReadError (List Element)
  | [] => return []
  | node :: rest => do
    inspect (.index position :: path) node
    match node.element? with
    | some element => return element :: (← elements path (position + 1) rest)
    | none => refuse path .strangeElement

/-- The scalars among elements. -/
def scalarsOf (elements : List Element) : List String :=
  elements.filterMap fun
    | .scalar t => some t
    | .pair _ _ => none

/-- The pairs among elements. -/
def pairsOf (elements : List Element) : List (String × String) :=
  elements.filterMap fun
    | .scalar _ => none
    | .pair k t => some (k, t)

/-- The entries of a mapping of scalars. -/
def textEntries (path : List Step) :
    List (Option String × Document × Document) → Except ReadError (List (String × String))
  | [] => return []
  | (label, key, value) :: rest => do
    let k ← text path .text key
    let t ← text (.label label :: path) .text value
    return (k, t) :: (← textEntries path rest)

/-- The value that a node holds: a scalar's text, a list of scalars, or pairs from a list of pairs
or from a mapping. A list without elements is a list. -/
def value (path : List Step) (node : Document) : Except ReadError Value :=
  match node with
  | sequence items => do
    let elements ← elements path 0 items
    -- The order of the cases makes a list of what has no elements.
    match scalarsOf elements, pairsOf elements with
    | scalars, [] => return .list scalars
    | [], pairs => return .pairs pairs
    | _, _ => refuse path .mixedList
  | mapping entries => return .pairs (← textEntries path entries)
  | _ => return .scalar (← text path .value node)

/-- The name that a key of bindings spells, as it is written and whatever its tag. -/
def name (path : List Step) : Document → Except ReadError String
  | scalar written _ => return written.getD ""
  | tagged node => name path node
  | node => mismatch path .string node

/-- The entries of bindings in order. -/
def bindingEntries (path : List Step) :
    List (Option String × Document × Document) → Except ReadError (List (String × Value))
  | [] => return []
  | (label, key, node) :: rest => do
    let k ← name path key
    let v ← value (.label label :: path) node
    return (k, v) :: (← bindingEntries path rest)

/-- The bindings that a document holds: a mapping of names to values, of which the last entry of a
name stands. No document and a scalar of which nothing is written bind nothing, and tags do not
matter. -/
def bindings : Document → Except ReadError Bindings
  | absent | scalar none _ => return .empty
  | mapping entries => return .ofList (← bindingEntries [] entries)
  | tagged node => bindings node
  | node => mismatch [] .bindings node

end Document

end Locator
