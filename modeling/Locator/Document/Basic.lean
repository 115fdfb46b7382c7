import Locator.Number.Decimal

/-! Documents: what a JSON or YAML text holds, and what can be wrong with one. -/

namespace Locator

/-- The notation that a document is written in. -/
inductive Notation where
  /-- JSON. -/
  | json
  /-- YAML. -/
  | yaml
  deriving DecidableEq, Repr

/-- What a scalar holds. -/
inductive Scalar where
  /-- Nothing. -/
  | null
  /-- A truth value. -/
  | bool (flag : Bool)
  /-- An integer of at most 64 bits, signed or unsigned. -/
  | integer (n : Int)
  /-- An integer of more than 64 bits. -/
  | wide (n : Int)
  /-- A number with a fraction or an exponent, or beyond the integers. -/
  | float (d : Double)
  /-- A text. -/
  | text (text : String)
  /-- A text that is not what its tag announces. -/
  | misfit (text : String) (announced : String)
  deriving DecidableEq, Repr

/-- Why a document cannot be read on. -/
inductive Fault where
  /-- The text is not in its notation. -/
  | malformed
  /-- Collections are nested too deep. -/
  | tooDeep
  /-- Aliases repeat the document too often. -/
  | tooManyAliases
  deriving DecidableEq, Repr

/-- What a text in JSON or YAML holds. -/
inductive Document where
  /-- No document at all. -/
  | absent
  /-- A scalar as it is written, if anything is written of it, and what it holds. -/
  | scalar (written : Option String) (held : Scalar)
  /-- A sequence. -/
  | sequence (items : List Document)
  /-- A mapping; every entry has the label that error texts use, its key and its value. -/
  | mapping (entries : List (Option String × Document × Document))
  /-- A node under a tag of the document's own. -/
  | tagged (node : Document)
  /-- The document cannot be read from here on. -/
  | fault (fault : Fault)
  deriving Repr

/-- What stands in a document where something else should. -/
inductive Found where
  /-- A scalar. -/
  | scalar (held : Scalar)
  /-- A sequence. -/
  | sequence
  /-- A mapping. -/
  | mapping
  /-- A node under a tag of the document's own. -/
  | tagged
  /-- No document. -/
  | absent
  deriving DecidableEq, Repr

namespace Document

/-- What a node is called where it should not stand. -/
def found : Document → Found
  | absent => .absent
  | scalar _ held => .scalar held
  | sequence _ => .sequence
  | mapping _ => .mapping
  | tagged _ => .tagged
  | fault _ => .absent

end Document

/-- What should stand at a place of a document. -/
inductive Expected where
  /-- The value of a template variable. -/
  | value
  /-- One text of such a value. -/
  | text
  /-- Anything that fits in 64 bits. -/
  | any
  /-- Bindings. -/
  | bindings
  /-- A string. -/
  | string
  /-- The parts of a URL. -/
  | parts
  /-- A port number. -/
  | port
  deriving DecidableEq, Repr

/-- What is wrong at a place of a document. -/
inductive Misread where
  /-- The document cannot be read on. -/
  | fault (fault : Fault)
  /-- Something of another kind stands there. -/
  | wrongType (found : Found) (expected : Expected)
  /-- An integer out of range stands there. -/
  | outOfRange (n : Int) (expected : Expected)
  /-- The text is not what its tag announces. -/
  | misfit (text : String) (announced : String)
  /-- An element of a list is neither a scalar nor a pair of scalars. -/
  | strangeElement
  /-- An element of a list is under a tag of the document's own. -/
  | taggedElement
  /-- A list has scalars and pairs. -/
  | mixedList
  /-- A field is not there. -/
  | missingField (name : String)
  /-- A field is there twice. -/
  | duplicateField (name : String)
  /-- An array of the parts of a URL is too short. -/
  | fewParts (length : Nat)
  deriving DecidableEq, Repr

/-- A step from a collection to something in it. -/
inductive Step where
  /-- The item of a sequence. -/
  | index (position : Nat)
  /-- The value under a key, which has a label when it is a scalar. -/
  | label (label : Option String)
  deriving DecidableEq, Repr

/-- What is wrong with a document, and the steps to the place, the last one first. -/
structure ReadError where
  /-- The steps from the place to the root. -/
  path : List Step
  /-- What is wrong. -/
  cause : Misread
  deriving DecidableEq, Repr

end Locator
