import Locator.Template.Operator
import Locator.Text.Ascii

/-! Templates: literal text with expressions, each an operator and the slots it fills. -/

namespace Locator

/-- What a slot says about its variable beside the name. -/
inductive Modifier where
  /-- `*`: one item for each member of the value. -/
  | explode
  /-- `:N`: only the first characters of a text. -/
  | take (length : UInt64)
  /-- Any other text after a colon, which has no effect. -/
  | other (text : String)
  deriving DecidableEq, Repr

/-- One variable of an expression. -/
structure Slot where
  /-- The variable's name. -/
  name : String
  /-- How its value is cut or spread. -/
  modifier : Option Modifier
  deriving DecidableEq, Repr

namespace Slot

/-- Whether every member of the value becomes an item of its own. -/
def isExploded (slot : Slot) : Bool :=
  slot.modifier = some .explode

/-- How many characters of a text are kept, when limited. -/
def limit? (slot : Slot) : Option UInt64 :=
  match slot.modifier with
  | some (.take length) => some length
  | _ => none

end Slot

/-- One expression: an operator and the slots it fills. -/
structure Expression where
  /-- The operator. -/
  operator : Operator
  /-- The slots in order. -/
  slots : List Slot
  deriving DecidableEq, Repr

/-- A part of a template. -/
inductive Part where
  /-- Text that stands for itself. -/
  | literal (text : String)
  /-- An expression to expand. -/
  | expression (expression : Expression)
  deriving DecidableEq, Repr

/-- A template is a sequence of parts. -/
structure Template where
  /-- The parts in order. -/
  parts : List Part
  deriving DecidableEq, Repr

namespace Part

/-- The expression of a part that is one. -/
def expression? : Part → Option Expression
  | literal _ => none
  | expression e => some e

end Part

namespace Template

/-- The expressions of a template in order. -/
def expressions (template : Template) : List Expression :=
  template.parts.filterMap Part.expression?

/-- The slots of all expressions in order. -/
def slots (template : Template) : List Slot :=
  template.expressions.flatMap Expression.slots

end Template

end Locator
